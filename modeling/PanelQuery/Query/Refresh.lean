import PanelQuery.Query.Compiled
import PanelQuery.Time.Range

/-!
# Queries - panel refreshes

A refresh asks for every target of a panel at once.  Hidden targets are left out before anything is
compiled; the first of the others that cannot be compiled fails the refresh.

Main results:

- `compileAll_append`: a list is compiled part by part, and the first fault counts.
-/

namespace PanelQuery

open Template

/-- What a panel asks for: its targets, and what the dashboard knows about the refresh. -/
structure Refresh where
  range : Option TimeRange := none
  interval : Option String := none
  maxDataPoints : Option Nat := none
  scope : Scope := []
  targets : List Target := []

/-- The targets that are not hidden. -/
def Refresh.visible (r : Refresh) : List Target :=
  r.targets.filter fun t => !t.hide

/-- A target in the body of a refresh. -/
structure QueryEntry where
  query : CompiledQuery
  target : Target

/-- An entry as a document. -/
def QueryEntry.toJson (e : QueryEntry) : Json :=
  .object [
    ("target", .string e.query.text),
    ("targetAliases", e.query.labelsJson),
    ("targetBuckets", e.target.bucket.getD .null),
    ("refId", .string e.target.refId),
    ("hide", .bool e.target.hide),
    ("type", .string (e.target.kind.getD Target.defaultKind)),
    ("alias", Json.ofText? e.target.targetAlias)]

/-- Compile targets in order; the first fault counts. -/
def compileAll (dashboard : Dashboard) (source : String) (scope : Scope) :
    List Target → Except CompileFault (List QueryEntry)
  | [] => .ok []
  | t :: rest => do
    let query ← t.compile dashboard source scope
    let entries ← compileAll dashboard source scope rest
    return ⟨query, t⟩ :: entries

/-- A list is compiled part by part. -/
theorem compileAll_append (dashboard : Dashboard) (source : String) (scope : Scope)
    (ts us : List Target) :
    compileAll dashboard source scope (ts ++ us) =
      (compileAll dashboard source scope ts >>= fun es =>
        (compileAll dashboard source scope us).map (es ++ ·)) := by
  induction ts with
  | nil =>
    simp only [List.nil_append, compileAll]
    cases compileAll dashboard source scope us <;> rfl
  | cons t rest ih =>
    simp only [List.cons_append, compileAll, ih]
    cases t.compile dashboard source scope with
    | error e => rfl
    | ok q =>
      cases compileAll dashboard source scope rest with
      | error e => rfl
      | ok es => cases compileAll dashboard source scope us <;> rfl

/-- A member of an object that is left out when there is no value. -/
def optionalMember {α : Type} (key : String) (toJson : α → Json) :
    Option α → List (String × Json)
  | some a => [(key, toJson a)]
  | none => []

/-- The body of a refresh with its compiled entries. -/
def Refresh.body (r : Refresh) (entries : List QueryEntry) : Json :=
  .object (
    optionalMember "range" TimeRange.toJson r.range ++
    optionalMember "interval" Json.string r.interval ++
    optionalMember "maxDataPoints" Json.ofNat r.maxDataPoints ++
    [("targets", .array (entries.map QueryEntry.toJson))])

/-- The compiled entries of a refresh. -/
def Refresh.entries (r : Refresh) (dashboard : Dashboard) (source : String) :
    Except CompileFault (List QueryEntry) :=
  compileAll dashboard source r.scope r.visible

end PanelQuery
