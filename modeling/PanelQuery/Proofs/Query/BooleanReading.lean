import PanelQuery.Proofs.Query.Criteria

/-!
# Queries - where clauses read as boolean expressions

A where clause is a row of words: atoms, connectives and parentheses.  It is read with the usual
precedence, `and` before `or`.  A machine that goes over the words once, with one frame for every
open parenthesis, finds the truth value that every reading has; so a chain of parts is true when all
parts of one of its alternatives are, the alternatives being what `or` separates.

Main results:

- `Reads.holds_eq`: all readings of the same words have the truth value that the machine finds.
- `settles_chainWords`: a chain is true when one of its alternatives is.
- `reads_chainWords`: a chain of readable parts can be read.
-/

namespace PanelQuery
namespace Target
namespace WhereClause

/-! ## Words and readings -/

/-- A word of a where clause. -/
inductive Word where
  | atom (text : String)
  | connective (c : Connective)
  | opening
  | closing
deriving DecidableEq, Repr

/-- The text of a word, with the blanks around it. -/
def Word.write : Word → String
  | .atom text => text
  | .connective c => " " ++ c.write ++ " "
  | .opening => "( "
  | .closing => " )"

/-- The text of a row of words. -/
def writeWords (words : List Word) : String :=
  String.join (words.map Word.write)

@[simp]
theorem writeWords_nil : writeWords [] = "" := by
  simp [writeWords]

@[simp]
theorem writeWords_cons (w : Word) (words : List Word) :
    writeWords (w :: words) = w.write ++ writeWords words := by
  simp [writeWords]

@[simp]
theorem writeWords_append (words more : List Word) :
    writeWords (words ++ more) = writeWords words ++ writeWords more := by
  simp [writeWords]

/-- A boolean expression over texts. -/
inductive Formula where
  | atom (text : String)
  | and (e f : Formula)
  | or (e f : Formula)
deriving DecidableEq, Repr

/-- The truth value of an expression, from those of its atoms. -/
def Formula.holds (v : String → Bool) : Formula → Bool
  | .atom text => v text
  | .and e f => e.holds v && f.holds v
  | .or e f => e.holds v || f.holds v

/-- How tightly the parts of an expression are bound. -/
inductive Level where
  | factor
  | conjunction
  | disjunction
deriving DecidableEq, Repr

/-- How words are read as an expression: `and` joins factors and `or` joins conjunctions, both from
the left, and parentheses make a factor of anything. -/
inductive Reads : Level → List Word → Formula → Prop
  | atom (text : String) : Reads .factor [.atom text] (.atom text)
  | parentheses {ws : List Word} {e : Formula} (h : Reads .disjunction ws e) :
      Reads .factor (.opening :: (ws ++ [.closing])) e
  | factor {ws : List Word} {e : Formula} (h : Reads .factor ws e) : Reads .conjunction ws e
  | and {ws us : List Word} {e f : Formula} (h : Reads .conjunction ws e)
      (h' : Reads .factor us f) : Reads .conjunction (ws ++ .connective .and :: us) (.and e f)
  | conjunction {ws : List Word} {e : Formula} (h : Reads .conjunction ws e) :
      Reads .disjunction ws e
  | or {ws us : List Word} {e f : Formula} (h : Reads .disjunction ws e)
      (h' : Reads .conjunction us f) : Reads .disjunction (ws ++ .connective .or :: us) (.or e f)

/-! ## A machine for truth values -/

/-- What is known inside one pair of parentheses: whether an alternative has already come out true,
and whether the latest one is true so far. -/
structure Frame where
  settled : Bool := false
  pending : Bool := true
deriving DecidableEq, Repr

namespace Frame

/-- The truth value of what has been read. -/
def value (f : Frame) : Bool :=
  f.settled || f.pending

/-- The frame after one more part of the latest alternative. -/
def narrow (f : Frame) (b : Bool) : Frame :=
  { f with pending := f.pending && b }

/-- The frame at the start of a further alternative. -/
def further (f : Frame) : Frame :=
  { settled := f.value, pending := true }

end Frame

section

variable (v : String → Bool)

/-- Go over one word, with the frames of the parentheses around. -/
def step : Word → Frame × List Frame → Frame × List Frame
  | .atom text, (f, outer) => (f.narrow (v text), outer)
  | .connective .and, state => state
  | .connective .or, (f, outer) => (f.further, outer)
  | .opening, (f, outer) => ({}, f :: outer)
  | .closing, (f, g :: outer) => (g.narrow f.value, outer)
  | .closing, (f, []) => (f, [])

/-- Go over words. -/
def run (ws : List Word) (state : Frame × List Frame) : Frame × List Frame :=
  ws.foldl (fun state w => step v w state) state

@[simp]
theorem run_nil (state : Frame × List Frame) : run v [] state = state :=
  rfl

@[simp]
theorem run_cons (w : Word) (ws : List Word) (state : Frame × List Frame) :
    run v (w :: ws) state = run v ws (step v w state) :=
  rfl

@[simp]
theorem run_append (ws us : List Word) (state : Frame × List Frame) :
    run v (ws ++ us) state = run v us (run v ws state) :=
  List.foldl_append

/-- Words act as one part of an alternative, with a truth value. -/
def Narrows (ws : List Word) (b : Bool) : Prop :=
  ∀ f outer, run v ws (f, outer) = (f.narrow b, outer)

/-- Words that begin a pair of parentheses have a truth value. -/
def Settles (ws : List Word) (b : Bool) : Prop :=
  ∀ outer, ∃ f, run v ws ({}, outer) = (f, outer) ∧ f.value = b

end

variable {v : String → Bool} {ws us : List Word} {b c : Bool}

theorem Frame.narrow_narrow (f : Frame) (b c : Bool) :
    (f.narrow b).narrow c = f.narrow (b && c) := by
  simp [Frame.narrow, Bool.and_assoc]

theorem narrows_atom (text : String) : Narrows v [.atom text] (v text) :=
  fun _ _ => rfl

theorem Settles.narrows_parentheses (h : Settles v ws b) :
    Narrows v (.opening :: (ws ++ [.closing])) b := by
  intro f outer
  obtain ⟨g, hrun, hvalue⟩ := h (f :: outer)
  rw [run_cons, step, run_append, hrun, run_cons, step, run_nil, hvalue]

theorem Narrows.and (h : Narrows v ws b) (h' : Narrows v us c) :
    Narrows v (ws ++ .connective .and :: us) (b && c) := by
  intro f outer
  rw [run_append, h, run_cons, step, h', Frame.narrow_narrow]

theorem Narrows.settles (h : Narrows v ws b) : Settles v ws b :=
  fun outer => ⟨Frame.narrow {} b, h {} outer, by simp [Frame.value, Frame.narrow]⟩

theorem Settles.or (h : Settles v ws b) (h' : Narrows v us c) :
    Settles v (ws ++ .connective .or :: us) (b || c) := by
  intro outer
  obtain ⟨f, hrun, hvalue⟩ := h outer
  refine ⟨f.further.narrow c, ?_, ?_⟩
  · rw [run_append, hrun, run_cons, step, h']
  · simp [Frame.value, Frame.narrow, Frame.further, ← hvalue]

/-- Words have at most one truth value. -/
theorem Settles.unique (h : Settles v ws b) (h' : Settles v ws c) : b = c := by
  obtain ⟨f, hrun, rfl⟩ := h []
  obtain ⟨g, hrun', rfl⟩ := h' []
  rw [(Prod.mk.inj (hrun.symm.trans hrun')).1]

/-- The machine does with read words what their expression says. -/
theorem Reads.effect {level : Level} {e : Formula} (h : Reads level ws e) :
    (level ≠ .disjunction → Narrows v ws (e.holds v)) ∧ Settles v ws (e.holds v) := by
  induction h with
  | atom text => exact ⟨fun _ => narrows_atom text, (narrows_atom text).settles⟩
  | parentheses _ ih =>
      have hnarrows := ih.2.narrows_parentheses
      exact ⟨fun _ => hnarrows, hnarrows.settles⟩
  | factor _ ih => exact ⟨fun _ => ih.1 nofun, ih.2⟩
  | and _ _ ih ih' =>
      have hnarrows := (ih.1 nofun).and (ih'.1 nofun)
      exact ⟨fun _ => hnarrows, hnarrows.settles⟩
  | conjunction _ ih => exact ⟨fun h => absurd rfl h, ih.2⟩
  | or _ _ ih ih' => exact ⟨fun h => absurd rfl h, ih.2.or (ih'.1 nofun)⟩

/-- All readings of the same words have the truth value that the machine finds. -/
theorem Reads.holds_eq {level : Level} {e : Formula} (h : Reads level ws e) (hb : Settles v ws b) :
    e.holds v = b :=
  h.effect.2.unique hb

/-! ## Chains of parts -/

/-- The words of parts after the first, each behind its connective. -/
def furtherWords : List (Connective × List Word) → List Word
  | [] => []
  | (connective, ws) :: rest => .connective connective :: (ws ++ furtherWords rest)

/-- The words of a chain; the connective of its first part joins nothing. -/
def chainWords : List (Connective × List Word) → List Word
  | [] => []
  | (_, ws) :: rest => ws ++ furtherWords rest

theorem writeWords_furtherWords (parts : List (Connective × List Word)) :
    writeWords (furtherWords parts) = writeFurther (parts.map fun p => (p.1, writeWords p.2)) := by
  induction parts with
  | nil => simp [furtherWords, writeFurther]
  | cons p parts ih => simp [furtherWords, writeFurther, Word.write, ih, String.append_assoc]

/-- The text of a chain of words is the chain of their texts. -/
theorem writeWords_chainWords (parts : List (Connective × List Word)) :
    writeWords (chainWords parts) = writeChain (parts.map fun p => (p.1, writeWords p.2)) := by
  cases parts with
  | nil => simp [chainWords, writeChain]
  | cons p parts => simp [chainWords, writeChain, writeWords_furtherWords]

/-- A factor may be joined to any expression. -/
theorem Reads.join {e f : Formula} (h : Reads .disjunction ws e) (h' : Reads .factor us f)
    (connective : Connective) :
    ∃ g, Reads .disjunction (ws ++ .connective connective :: us) g := by
  cases connective with
  | or => exact ⟨_, h.or h'.factor⟩
  | and =>
      cases h with
      | conjunction h => exact ⟨_, .conjunction (h.and h')⟩
      | or h h'' =>
          rw [List.append_assoc, List.cons_append]
          exact ⟨_, h.or (h''.and h')⟩

theorem Reads.join_furtherWords {parts : List (Connective × List Word)} {e : Formula}
    (h : Reads .disjunction ws e) (hparts : ∀ p ∈ parts, ∃ f, Reads .factor p.2 f) :
    ∃ g, Reads .disjunction (ws ++ furtherWords parts) g := by
  induction parts generalizing ws e with
  | nil => exact ⟨e, by simpa [furtherWords] using h⟩
  | cons p parts ih =>
      obtain ⟨f, hf⟩ := hparts p List.mem_cons_self
      obtain ⟨g, hg⟩ := h.join hf p.1
      obtain ⟨g', hg'⟩ := ih hg fun q hq => hparts q (List.mem_cons_of_mem p hq)
      exact ⟨g', by simpa [furtherWords] using hg'⟩

/-- A chain of readable parts can be read. -/
theorem reads_chainWords {parts : List (Connective × List Word)} (hne : parts ≠ [])
    (hparts : ∀ p ∈ parts, ∃ f, Reads .factor p.2 f) :
    ∃ e, Reads .disjunction (chainWords parts) e := by
  obtain ⟨p, parts, rfl⟩ := List.exists_cons_of_ne_nil hne
  obtain ⟨f, hf⟩ := hparts p List.mem_cons_self
  exact (Reads.conjunction hf.factor).join_furtherWords fun q hq =>
    hparts q (List.mem_cons_of_mem p hq)

/-! ## Alternatives -/

section

variable {α β : Type} (connective : α → Connective)

/-- The alternatives of a chain, given the items of the first one up to here. -/
def alternativesAfter (latest : List α) : List α → List (List α)
  | [] => [latest]
  | a :: rest =>
    match connective a with
    | .and => alternativesAfter (latest ++ [a]) rest
    | .or => latest :: alternativesAfter [a] rest

/-- The alternatives of a chain: what `or` separates. -/
def alternatives : List α → List (List α)
  | [] => [[]]
  | a :: rest => alternativesAfter connective [a] rest

/-- Going over the words of a chain's further items, the machine finds the alternatives. -/
theorem run_furtherWords {words : α → List Word} {holds : α → Bool}
    (items : List α) (h : ∀ a ∈ items, Narrows v (words a) (holds a)) (latest : List α) (f : Frame)
    (hf : f.pending = latest.all holds) (outer : List Frame) :
    ∃ g, run v (furtherWords (items.map fun a => (connective a, words a))) (f, outer) = (g, outer) ∧
      g.value = (f.settled || (alternativesAfter connective latest items).any (·.all holds)) := by
  induction items generalizing latest f with
  | nil => exact ⟨f, rfl, by simp [Frame.value, alternativesAfter, hf]⟩
  | cons a items ih =>
      have ha := h a List.mem_cons_self
      have ih' := ih fun b hb => h b (List.mem_cons_of_mem a hb)
      simp only [List.map_cons, furtherWords, run_cons, run_append]
      cases hconnective : connective a with
      | and =>
          obtain ⟨g, hrun, hvalue⟩ := ih' (latest ++ [a]) (f.narrow (holds a))
            (by simp [Frame.narrow, hf])
          refine ⟨g, ?_, ?_⟩
          · rw [step, ha, hrun]
          · rw [hvalue, alternativesAfter, hconnective]
            rfl
      | or =>
          obtain ⟨g, hrun, hvalue⟩ := ih' [a] (f.further.narrow (holds a))
            (by simp [Frame.narrow, Frame.further])
          refine ⟨g, ?_, ?_⟩
          · rw [step, ha, hrun]
          · rw [hvalue, alternativesAfter, hconnective]
            simp [Frame.narrow, Frame.further, Frame.value, hf, Bool.or_assoc]

/-- A chain is true when all items of one of its alternatives are. -/
theorem settles_chainWords {words : α → List Word} {holds : α → Bool} (items : List α)
    (h : ∀ a ∈ items, Narrows v (words a) (holds a)) :
    Settles v (chainWords (items.map fun a => (connective a, words a)))
      ((alternatives connective items).any (·.all holds)) := by
  intro outer
  cases items with
  | nil => exact ⟨{}, rfl, by simp [Frame.value, alternatives]⟩
  | cons a items =>
      have ha := h a List.mem_cons_self
      obtain ⟨g, hrun, hvalue⟩ := run_furtherWords connective items
        (fun b hb => h b (List.mem_cons_of_mem a hb)) [a] (Frame.narrow {} (holds a))
        (by simp [Frame.narrow]) outer
      refine ⟨g, ?_, ?_⟩
      · rw [List.map_cons, chainWords, run_append, ha, hrun]
      · rw [hvalue, alternatives]
        rfl

end

end WhereClause
end Target
end PanelQuery
