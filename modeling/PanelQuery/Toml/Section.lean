import PanelQuery.Toml.Value

/-!
# TOML - tables under construction

Tables while a document is read.  Beside its members a table has to know how it came about: a table
that only lies on the way to another one may still be given a header of its own, and only a table
that dotted keys made may be extended by dotted keys.

Main results:

- `put_twice`: a key cannot be given a value twice.
-/

namespace PanelQuery
namespace Toml

/-- How a table came about. -/
inductive Origin where
  /-- By a header of its own. -/
  | header
  /-- On the way of a header to another table. -/
  | passage
  /-- On the way of a dotted key. -/
  | dotted
deriving DecidableEq, Repr

/-- What a key of a table under construction stands for. -/
inductive Entry where
  | value (value : Value)
  | table (origin : Origin) (members : List (String × Entry))
  | tables (before : List (List (String × Entry))) (last : List (String × Entry))

/-- The members of a table under construction. -/
abbrev Members := List (String × Entry)

/-- The entry of a key. -/
def Members.entry? (key : String) : Members → Option Entry
  | [] => none
  | (k, e) :: rest => if k = key then some e else Members.entry? key rest

/-- Put an entry in place of the one that its key has, or at the end. -/
def Members.set (key : String) (entry : Entry) : Members → Members
  | [] => [(key, entry)]
  | (k, e) :: rest => if k = key then (key, entry) :: rest else (k, e) :: Members.set key entry rest

/-- An entry that was put in is found. -/
@[simp]
theorem Members.entry?_set (key : String) (entry : Entry) (ms : Members) :
    Members.entry? key (Members.set key entry ms) = some entry := by
  induction ms with
  | nil => simp [Members.set, Members.entry?]
  | cons m rest ih =>
    obtain ⟨k, e⟩ := m
    by_cases hk : k = key <;> simp [Members.set, Members.entry?, hk, ih]

/-- Give a key a value, along a path of dotted keys.  The table at the end of a path has to come
from dotted keys. -/
def put (key : String) (value : Value) : List String → Members → Option Members
  | [], ms =>
    match Members.entry? key ms with
    | some _ => none
    | none => some (Members.set key (.value value) ms)
  | step :: path, ms =>
    match Members.entry? step ms with
    | none => (put key value path []).map fun inner => Members.set step (.table .dotted inner) ms
    | some (.table .dotted inner) =>
      (put key value path inner).map fun inner => Members.set step (.table .dotted inner) ms
    | some (.table .passage inner) =>
      if path.isEmpty then none
      else (put key value path inner).map fun inner => Members.set step (.table .passage inner) ms
    | some (.tables before last) =>
      if path.isEmpty then none
      else (put key value path last).map fun last => Members.set step (.tables before last) ms
    | some (.table .header _) => none
    | some (.value _) => none

/-- A key cannot be given a value twice. -/
theorem put_twice {key : String} {v w : Value} {ms ms' : Members}
    (h : put key v [] ms = some ms') : put key w [] ms' = none := by
  unfold put at h
  split at h
  · simp at h
  · simp only [Option.some.injEq] at h
    subst h
    simp [put]

/-- Change the table at the end of a path of headers. -/
def within (change : Members → Option Members) : List String → Members → Option Members
  | [], ms => change ms
  | step :: path, ms =>
    match Members.entry? step ms with
    | none => (within change path []).map fun inner => Members.set step (.table .passage inner) ms
    | some (.table origin inner) =>
      (within change path inner).map fun inner => Members.set step (.table origin inner) ms
    | some (.tables before last) =>
      (within change path last).map fun last => Members.set step (.tables before last) ms
    | some (.value _) => none

/-- A key with its path, and the value that it is given. -/
abbrev Assignment := (List String × String) × Value

/-- Give keys their values, in order. -/
def putAll : List Assignment → Members → Option Members
  | [], ms => some ms
  | ((path, key), value) :: rest, ms => put key value path ms >>= putAll rest

/-- Give a table a header, and its keys their values.  A table that lay on the way to another one
keeps what it has; any other table of the name is in the way. -/
def openTable (key : String) (assignments : List Assignment) (ms : Members) : Option Members :=
  match Members.entry? key ms with
  | none => (putAll assignments []).map fun inner => Members.set key (.table .header inner) ms
  | some (.table .passage inner) =>
    (putAll assignments inner).map fun inner => Members.set key (.table .header inner) ms
  | some _ => none

/-- Begin one more table of a list of tables, and give its keys their values. -/
def openNext (key : String) (assignments : List Assignment) (ms : Members) : Option Members :=
  match Members.entry? key ms with
  | none => (putAll assignments []).map fun inner => Members.set key (.tables [] inner) ms
  | some (.tables before last) =>
    (putAll assignments []).map fun inner =>
      Members.set key (.tables (before ++ [last]) inner) ms
  | some _ => none

mutual

/-- The value of a finished entry. -/
def Entry.finish : Entry → Value
  | .value v => v
  | .table _ members => .table (finishAll members)
  | .tables before last => .array (finishEach before ++ [.table (finishAll last)])

/-- The values of finished entries. -/
def finishAll : List (String × Entry) → List (String × Value)
  | [] => []
  | (key, e) :: rest => (key, e.finish) :: finishAll rest

/-- The values of finished tables. -/
def finishEach : List (List (String × Entry)) → List Value
  | [] => []
  | members :: rest => .table (finishAll members) :: finishEach rest

end

end Toml
end PanelQuery
