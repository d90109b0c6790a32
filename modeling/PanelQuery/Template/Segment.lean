import PanelQuery.Text.Alphanumeric
import PanelQuery.Text.Reader

/-!
# Templates - segments

A template is text with references to variables: `$name`, `${name}`, `${name:format}`, `[[name]]`
and `[[name:format]]`.  It splits into literal runs and references; what does not form a complete
reference is literal, so every text is a template.

Main results:

- `segments_nil` and `segments_cons`: a template is read from the left, one reference or one literal
  character at a time.
-/

namespace PanelQuery
namespace Template

open Text

/-- A reference to a variable, in one of its three shapes. -/
inductive Reference where
  | bare (name : String)
  | braced (name : String) (format : Option String)
  | bracketed (name : String) (format : Option String)
deriving DecidableEq, Repr

namespace Reference

/-- The name of the variable. -/
def name : Reference → String
  | .bare n | .braced n _ | .bracketed n _ => n

/-- The format that the reference asks for. -/
def format : Reference → Option String
  | .bare _ => none
  | .braced _ f | .bracketed _ f => f

/-- A format as it stands in a reference, after a colon. -/
def suffix : Option String → List Char
  | none => []
  | some f => ':' :: f.toList

/-- The text of a reference. -/
def rawChars : Reference → List Char
  | .bare n => '$' :: n.toList
  | .braced n f => ['$', '{'] ++ n.toList ++ suffix f ++ ['}']
  | .bracketed n f => ['[', '['] ++ n.toList ++ suffix f ++ [']', ']']

/-- The text of a reference. -/
def raw (r : Reference) : String :=
  String.ofList r.rawChars

end Reference

/-- A part of a template. -/
inductive Segment where
  | literal (text : String)
  | reference (ref : Reference)
deriving DecidableEq, Repr

/-- The text that a segment was read from. -/
def Segment.source : Segment → String
  | .literal t => t
  | .reference r => r.raw

/-- Whether a character may stand in a variable's name. -/
def isNameChar (c : Char) : Bool :=
  isAlphanumeric c || c == '_'

/-- Read a name: one or more name characters. -/
def readName : Reader String := fun cs =>
  match cs with
  | [] => none
  | c :: rest =>
    if isNameChar c then
      some (String.ofList (c :: rest.takeWhile isNameChar), Rest.tail.dropWhile isNameChar)
    else none

/-- Read a format that ends before a character: one or more other characters. -/
def readFormat (stop : Char) : Reader String := fun cs =>
  match cs with
  | [] => none
  | c :: rest =>
    if c != stop then
      some (String.ofList (c :: rest.takeWhile (· != stop)), Rest.tail.dropWhile (· != stop))
    else none

/-- Read a closing mark: one or two copies of a character. -/
def readClose (stop : Char) (double : Bool) (cs : List Char) : Option (Rest cs) :=
  match cs with
  | c :: rest =>
    if c != stop then none
    else if !double then some .tail
    else match rest with
      | d :: _ => if d == stop then some Rest.tail.behind else none
      | [] => none
  | [] => none

/-- Read the end of a reference after its name: perhaps a colon and a format, and the closing mark.
-/
def readEnding (stop : Char) (double : Bool) : Reader (Option String) := fun cs =>
  match cs with
  | ':' :: rest =>
    match readFormat stop rest with
    | none => none
    | some (format, r) =>
      (readClose stop double r.chars).map fun r' => (some format, (r.trans r').behind)
  | cs => (readClose stop double cs).map fun r => (none, r)

/-- Read what stands after the opening mark of a reference: a name and the reference's end. -/
def readEnclosed (stop : Char) (double : Bool) : Reader (String × Option String) := fun cs =>
  match readName cs with
  | none => none
  | some (name, r) =>
    (readEnding stop double r.chars).map fun (format, r') => ((name, format), r.trans r')

/-- Read a reference that starts at the first character. -/
def readReference : Reader Reference := fun cs =>
  match cs with
  | '$' :: '{' :: rest =>
    (readEnclosed '}' false rest).map fun ((name, format), r) =>
      (.braced name format, r.behind.behind)
  | '$' :: rest => (readName rest).map fun (name, r) => (.bare name, r.behind)
  | '[' :: '[' :: rest =>
    (readEnclosed ']' true rest).map fun ((name, format), r) =>
      (.bracketed name format, r.behind.behind)
  | _ => none

/-- The literal run that was collected, latest character first; nothing if it is empty. -/
def flush (pending : List Char) : List Segment :=
  if pending.isEmpty then [] else [.literal (String.ofList pending.reverse)]

/-- The segments of a text, given the literal characters before it, latest first. -/
def segmentsAfter (pending : List Char) (cs : List Char) : List Segment :=
  match cs with
  | [] => flush pending
  | c :: rest =>
    match readReference (c :: rest) with
    | some (ref, r) =>
      flush pending ++ .reference ref :: segmentsAfter [] r.chars
    | none => segmentsAfter (c :: pending) rest
termination_by cs.length
decreasing_by
  · exact r.shorter
  · exact length_lt_cons c rest

/-- The segments of a template. -/
def segments (text : String) : List Segment :=
  segmentsAfter [] text.toList

/-- At the end of a template the literal run that was collected is its last segment. -/
theorem segments_nil (pending : List Char) : segmentsAfter pending [] = flush pending := by
  rw [segmentsAfter]

/-- Where no reference starts, a character joins the literal run. -/
theorem segments_cons {pending rest : List Char} {c : Char}
    (h : readReference (c :: rest) = none) :
    segmentsAfter pending (c :: rest) = segmentsAfter (c :: pending) rest := by
  rw [segmentsAfter]
  simp [h]

end Template
end PanelQuery
