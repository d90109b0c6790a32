/-!
# Command line - arguments

Reading the arguments of a command line.  Options have a long name and perhaps a short one, and all
of them take a value: attached to the name, or as the next argument if that does not look like an
option.  An option is given once at most.  Everything else is an operand, and after `--` everything
is.

Main results:

- `scan_operand`: an operand that is accepted is kept, in order.
-/

namespace PanelQuery
namespace Command

/-- Why the reading of arguments ends before a command is found. -/
inductive Stop where
  /-- The user asked for help. -/
  | help
  /-- The user asked for the version. -/
  | version
  /-- The arguments are wrong. -/
  | misuse
deriving DecidableEq, Repr

/-- An option: its names, and which values it accepts. -/
structure OptionRule where
  long : String
  short : Option Char := none
  accepts : String → Bool := fun _ => true

/-- What may be given at a place of the command line: options, and operands in order. -/
structure Rules where
  options : List OptionRule
  operands : List (String → Bool) := []

/-- What was given: the values of options by long name, and the operands. -/
structure Given where
  options : List (String × String) := []
  operands : List String := []
deriving Repr

namespace Given

/-- The value of an option. -/
def value? (g : Given) (long : String) : Option String :=
  g.options.lookup long

end Given

/-- An argument by its form. -/
inductive Argument where
  /-- A long name, perhaps with a value. -/
  | long (name : String) (value : Option String)
  /-- A short name, and what is attached to it. -/
  | short (name : Char) (attached : List Char)
  /-- The end of options. -/
  | ending
  /-- Anything else. -/
  | plain (text : String)
deriving DecidableEq, Repr

namespace Argument

/-- The form of an argument. -/
def ofString (text : String) : Argument :=
  match text.toList with
  | ['-', '-'] => .ending
  | '-' :: '-' :: rest =>
    match rest.dropWhile (· != '=') with
    | _ :: value => .long (String.ofList (rest.takeWhile (· != '='))) (some (String.ofList value))
    | [] => .long (String.ofList rest) none
  | '-' :: name :: attached => .short name attached
  | _ => .plain text

/-- Whether an argument can be the value of the option before it. -/
def isValue (text : String) : Bool :=
  match ofString text with
  | .plain _ => true
  | _ => false

end Argument

namespace Rules

/-- Add the value of an option. -/
def addOption (rule : OptionRule) (value : String) (g : Given) : Except Stop Given :=
  if (g.value? rule.long).isSome || !rule.accepts value then .error .misuse
  else .ok { g with options := (rule.long, value) :: g.options }

/-- Add an operand. -/
def addOperand (rules : Rules) (text : String) (g : Given) : Except Stop Given :=
  match rules.operands[g.operands.length]? with
  | none => .error .misuse
  | some accepts =>
    if accepts text then .ok { g with operands := g.operands ++ [text] } else .error .misuse

/-- Add operands, in order. -/
def addOperands (rules : Rules) : List String → Given → Except Stop Given
  | [], g => .ok g
  | text :: rest, g => rules.addOperand text g >>= rules.addOperands rest

/-- The value that is attached to a short name. -/
def attachedValue : List Char → Option String
  | [] => none
  | '=' :: value => some (String.ofList value)
  | value => some (String.ofList value)

/-- The name of the option for help, and of the one for the version. -/
def helpNames : String × Char := ("help", 'h')

/-- The option that an argument names with the value that it brings along; a stop if it asks for
help. -/
def option (rules : Rules) : Argument → Except Stop (OptionRule × Option String)
  | .long name value =>
    if name = helpNames.1 then .error (if value.isNone then .help else .misuse)
    else
      match rules.options.find? fun o => o.long = name with
      | some o => .ok (o, value)
      | none => .error .misuse
  | .short name attached =>
    if name = helpNames.2 then .error .help
    else
      match rules.options.find? fun o => o.short = some name with
      | some o => .ok (o, attachedValue attached)
      | none => .error .misuse
  | _ => .error .misuse

/-- Read arguments. -/
def scan (rules : Rules) (g : Given) : List String → Except Stop Given
  | [] => .ok g
  | text :: rest =>
    match Argument.ofString text with
    | .plain operand => rules.addOperand operand g >>= fun g => rules.scan g rest
    | .ending => rules.addOperands rest g
    | argument =>
      match rules.option argument with
      | .error stop => .error stop
      | .ok (rule, some value) => addOption rule value g >>= fun g => rules.scan g rest
      | .ok (rule, none) =>
        match rest with
        | [] => .error .misuse
        | value :: rest =>
          if Argument.isValue value then addOption rule value g >>= fun g => rules.scan g rest
          else .error .misuse

/-- An operand that is accepted is kept, in order. -/
theorem scan_operand {rules : Rules} {g : Given} {text : String} {rest : List String}
    {accepts : String → Bool} (hplain : Argument.ofString text = .plain text)
    (hrule : rules.operands[g.operands.length]? = some accepts) (h : accepts text = true) :
    rules.scan g (text :: rest) =
      rules.scan { g with operands := g.operands ++ [text] } rest := by
  conv => lhs; unfold scan
  simp [hplain, addOperand, hrule, h, bind, Except.bind]

end Rules

/-- Whether an argument asks for the version. -/
def asksVersion : Argument → Bool
  | .long "version" none => true
  | .short 'V' _ => true
  | _ => false

/-- Read the options before the name of a command: what is given, the name, and what follows it. -/
def spanCommand (rules : Rules) (g : Given) : List String →
    Except Stop (Given × String × List String)
  | [] => .error .misuse
  | text :: rest =>
    match Argument.ofString text with
    | .plain name => .ok (g, name, rest)
    | .ending => .error .misuse
    | argument =>
      if asksVersion argument then .error .version
      else
        match rules.option argument with
        | .error stop => .error stop
        | .ok (rule, some value) =>
          Rules.addOption rule value g >>= fun g => spanCommand rules g rest
        | .ok (rule, none) =>
          match rest with
          | [] => .error .misuse
          | value :: rest =>
            if Argument.isValue value then
              Rules.addOption rule value g >>= fun g => spanCommand rules g rest
            else .error .misuse

end Command
end PanelQuery
