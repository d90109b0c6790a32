import Mathlib.Data.List.Forall2
import Mathlib.Data.List.Infix
import PanelQuery.Command.Run
import PanelQuery.Proofs.Correspondence
import PanelQuery.Proofs.Query.LabelTable

/-!
# Command line - compiling in order

Targets are compiled one by one, and each query is printed as soon as it is there.  So what has been
printed stays when a later target cannot be compiled, and that target ends the work.

Main results:

- `Command.compileWork_of_fault`: the queries before a target that cannot be compiled are printed.
- `Command.exists_compilesInOrder_ofWork`: what is printed are the queries of the longest prefix of
  targets that can be compiled.
- `Command.Report.CompilesInOrder.unique_of_fault`: no other queries can be printed.
-/

namespace PanelQuery

/-! ## Longest prefixes -/

/-- A list is the longest prefix of another one in which everything has a property. -/
structure IsLongestPrefix {α : Type} (P : α → Prop) (front items : List α) : Prop where
  start : front <+: items
  all : ∀ a ∈ front, P a
  longest : ∀ other, other <+: items → (∀ a ∈ other, P a) → other <+: front

section

variable {α : Type} {P : α → Prop} {front front' items back : List α} {b : α}

theorem IsLongestPrefix.unique (h : IsLongestPrefix P front items)
    (h' : IsLongestPrefix P front' items) : front = front' := by
  have hle : front'.length ≤ front.length := (h.longest front' h'.start h'.all).length_le
  exact (h'.longest front h.start h.all).eq_of_length_le hle

theorem isLongestPrefix_self (h : ∀ a ∈ items, P a) : IsLongestPrefix P items items where
  start := List.prefix_rfl
  all := h
  longest _ hother _ := hother

/-- What stands before the first entry without a property is the longest prefix with it. -/
theorem isLongestPrefix_append_cons (hfront : ∀ a ∈ front, P a) (hb : ¬ P b) :
    IsLongestPrefix P front (front ++ b :: back) where
  start := List.prefix_append front (b :: back)
  all := hfront
  longest other hother hall := by
    rcases List.prefix_or_prefix_of_prefix hother (List.prefix_append front (b :: back)) with
      hle | ⟨rest, rfl⟩
    · exact hle
    · cases rest with
      | nil => rw [List.append_nil]
      | cons c rest =>
          -- A prefix that goes on after `front` does so with `b`, which it must not have.
          have hc : c = b := (List.cons_prefix_cons.1 ((List.prefix_append_right_inj front).1
            hother)).1
          exact absurd (hc ▸ hall c (by simp)) hb

end

open Template in
/-- The labels of a compiled target stand in the order of their keys. -/
theorem Target.isOrdered_labels_of_compile {t : Target} {d : Dashboard} {source : String}
    {scope : Scope} {q : CompiledQuery} (h : t.compile d source scope = .ok q) :
    q.labels.IsOrdered := by
  cases hraw : t.rawQuery with
  | true =>
      obtain ⟨text, -, rfl⟩ := (compile_eq_ok_iff_of_raw hraw).1 h
      exact List.Pairwise.nil
  | false =>
      rw [compile_eq_of_structured hraw, Except.ok.injEq] at h
      rw [← h]
      exact KeyTable.isOrdered_ofList _

namespace Command

/-! ## Compiling and printing -/

/-- The lines of a query for a reader: its text, and one for each label. -/
def tableLines (q : CompiledQuery) : List String :=
  q.text :: q.labels.map fun l => "  " ++ l.1 ++ " => " ++ l.2

theorem queryText_table (q : CompiledQuery) :
    queryText false q = String.join ((tableLines q).map (· ++ "\n")) := by
  simp [queryText, tableLines, line, String.join_cons, Function.comp_def]

theorem join_queryText_table (queries : List CompiledQuery) :
    String.join (queries.map (queryText false)) =
      String.join ((queries.flatMap tableLines).map (· ++ "\n")) := by
  induction queries with
  | nil => rfl
  | cons q queries ih =>
      rw [List.map_cons, String.join_cons, ih, queryText_table, List.flatMap_cons, List.map_append,
        String.join_append]

/-- Targets up to the first one that cannot be compiled have a query each. -/
theorem exists_compiled_front {ε : Type} (compile : Target → Except ε CompiledQuery)
    (targets : List Target) :
    ∃ front queries, List.Forall₂ (fun t q => compile t = .ok q) front queries ∧
      (targets = front ∨
        ∃ t back fault, targets = front ++ t :: back ∧ compile t = .error fault) := by
  induction targets with
  | nil => exact ⟨[], [], .nil, .inl rfl⟩
  | cons t targets ih =>
      cases ht : compile t with
      | error fault => exact ⟨[], [], .nil, .inr ⟨t, targets, fault, rfl, ht⟩⟩
      | ok q =>
          obtain ⟨front, queries, hqueries, hrest⟩ := ih
          refine ⟨t :: front, q :: queries, .cons ht hqueries, ?_⟩
          rcases hrest with rfl | ⟨u, back, fault, rfl, hu⟩
          · exact .inl rfl
          · exact .inr ⟨u, back, fault, rfl, hu⟩

section

variable {s : Setup} {front : List Target} {queries : List CompiledQuery}

/-- Targets that can all be compiled have their queries printed, in their order. -/
theorem compileWork_of_compiled
    (h : List.Forall₂ (fun t q => t.compile s.datasource.dashboard s.datasource.name [] = .ok q)
      front queries) :
    compileWork s front = .printed (String.join (queries.map (queryText s.asJson))) := by
  induction h with
  | nil => rfl
  | cons hq _ ih =>
      rw [compileWork, ih, compileOne]
      simp only [hq]
      simp [Work.append, Work.printed, String.join_cons]

/-- The queries before a target that cannot be compiled are printed, and nothing after it. -/
theorem compileWork_of_fault
    (h : List.Forall₂ (fun t q => t.compile s.datasource.dashboard s.datasource.name [] = .ok q)
      front queries) {t : Target} {fault : CompileFault}
    (ht : t.compile s.datasource.dashboard s.datasource.name [] = .error fault)
    (back : List Target) :
    compileWork s (front ++ t :: back) =
      { output := String.join (queries.map (queryText s.asJson))
        fault := some (.compile fault) } := by
  have hfailed : compileWork s (t :: back) = .failed (.compile fault) := by
    rw [compileWork, compileOne]
    simp only [ht]
    exact Work.append_fault rfl
  rw [compileWork_append, compileWork_of_compiled h, hfailed]
  simp [Work.append, Work.printed, Work.failed]

end

/-- A text shows queries to a reader: as documents one after the other, or else line by line, with
the labels in the order of their keys. -/
structure IsShown (format : Option String) (queries : List CompiledQuery) (output : String) :
    Prop where
  table : format ≠ some "json" →
    output = String.join ((queries.flatMap tableLines).map (· ++ "\n"))
  ordered : ∀ q ∈ queries, q.labels.IsOrdered
  json : format = some "json" → output = String.join (queries.map fun q => q.toJson.pretty ++ "\n")

theorem isShown_queryText {queries : List CompiledQuery} (c : Common)
    (hordered : ∀ q ∈ queries, q.labels.IsOrdered) :
    IsShown c.format queries (String.join (queries.map (queryText c.printsJson))) where
  table hformat := by
    have hjson : c.printsJson = false := by simpa [Common.printsJson] using hformat
    rw [hjson, join_queryText_table]
  ordered := hordered
  json hformat := by
    have hjson : c.printsJson = true := by simpa [Common.printsJson] using hformat
    rw [hjson]
    rfl

/-- A report of targets that were compiled in order: it shows the queries of the longest prefix that
can be compiled, and failed with the target after that if there is one.  Nothing was sent. -/
structure Report.CompilesInOrder (compile : Target → Except CompileFault CompiledQuery)
    (format : Option String) (targets front : List Target) (queries : List CompiledQuery)
    (r : Report) : Prop where
  longest : IsLongestPrefix (fun t => ∃ q, compile t = .ok q) front targets
  compiled : List.Forall₂ (fun t q => compile t = .ok q) front queries
  shown : IsShown format queries r.output
  success : front = targets → r.ending = .success
  failure : ∀ t back, targets = front ++ t :: back →
    ∃ fault, compile t = .error fault ∧ r.ending = .failure (.compile fault)
  messages : r.messages = []

namespace Report.CompilesInOrder

variable {compile : Target → Except CompileFault CompiledQuery} {format : Option String}
  {targets front front' back : List Target} {queries queries' : List CompiledQuery} {r : Report}

/-- Targets that are compiled in order fail at nothing but a target. -/
theorem ending_cases (h : r.CompilesInOrder compile format targets front queries) :
    r.ending = .success ∨ ∃ fault, r.ending = .failure (.compile fault) := by
  obtain ⟨rest, rfl⟩ := h.longest.start
  cases rest with
  | nil => exact .inl (h.success (List.append_nil front).symm)
  | cons t back =>
      obtain ⟨fault, -, hending⟩ := h.failure t back rfl
      exact .inr ⟨fault, hending⟩

/-- The targets before the first one that cannot be compiled, and their queries, are the only ones
that a report of compiling in order can be about. -/
theorem unique_of_fault (h : r.CompilesInOrder compile format targets front queries) {t : Target}
    {fault : CompileFault} (hsplit : targets = front' ++ t :: back)
    (hcompiled : List.Forall₂ (fun t q => compile t = .ok q) front' queries')
    (ht : compile t = .error fault) :
    queries = queries' ∧ r.ending = .failure (.compile fault) := by
  subst hsplit
  have hfront : front = front' := by
    refine h.longest.unique (isLongestPrefix_append_cons (fun u hu => ?_) (by simp [ht]))
    obtain ⟨q, -, hq⟩ := exists_right_of_forall₂ hcompiled hu
    exact ⟨q, hq⟩
  subst hfront
  constructor
  · refine List.right_unique_forall₂' (fun t q q' hq hq' => ?_) h.compiled hcompiled
    exact Except.ok.inj (hq.symm.trans hq')
  · obtain ⟨fault', hfault', hending⟩ := h.failure t back rfl
    rw [ht, Except.error.injEq] at hfault'
    rw [hending, hfault']

end Report.CompilesInOrder

/-- The report of some work under some settings. -/
def Report.ofWork (settings : Settings) (files : FileTree) (work : Work) : Report where
  ending :=
    match work.fault with
    | some fault => .failure fault
    | none => .success
  output := work.output
  messages := (Service.Client.ofUrl settings.service.url).messages work.sent
  files := files

/-- The work of compiling targets is reported in order, whatever it is set up with. -/
theorem exists_compilesInOrder_ofWork (settings : Settings) (files : FileTree) (setup : Setup)
    {c : Common} (hjson : setup.asJson = c.printsJson) (targets : List Target) :
    ∃ front queries,
      (Report.ofWork settings files (compileWork setup targets)).CompilesInOrder
        (fun t => t.compile setup.datasource.dashboard setup.datasource.name []) c.format targets
          front queries := by
  obtain ⟨front, queries, hqueries, hrest⟩ := exists_compiled_front
    (fun t => t.compile setup.datasource.dashboard setup.datasource.name []) targets
  have hfront : ∀ t ∈ front,
      ∃ q, t.compile setup.datasource.dashboard setup.datasource.name [] = .ok q := by
    intro t ht
    obtain ⟨q, -, hq⟩ := exists_right_of_forall₂ hqueries ht
    exact ⟨q, hq⟩
  have hshown : IsShown c.format queries
      (String.join (queries.map (queryText setup.asJson))) := by
    refine hjson ▸ isShown_queryText c fun q hq => ?_
    obtain ⟨t, -, ht⟩ := exists_left_of_forall₂ hqueries hq
    exact Target.isOrdered_labels_of_compile ht
  refine ⟨front, queries, ?_⟩
  -- Either everything could be compiled, or `t` is what ends the prefix.
  rcases hrest with rfl | ⟨t, back, fault, rfl, ht⟩
  · rw [compileWork_of_compiled hqueries]
    exact {
      longest := isLongestPrefix_self hfront
      compiled := hqueries
      shown := hshown
      success _ := rfl
      failure t back hsplit := by simp at hsplit
      messages := rfl }
  · rw [compileWork_of_fault hqueries ht]
    have hfault : ¬ ∃ q, t.compile setup.datasource.dashboard setup.datasource.name [] = .ok q := by
      simp [ht]
    exact {
      longest := isLongestPrefix_append_cons hfront hfault
      compiled := hqueries
      shown := hshown
      success hall := by simp at hall
      failure u rest hsplit := by
        obtain ⟨rfl, -⟩ := List.cons.inj (List.append_cancel_left hsplit)
        exact ⟨fault, ht, rfl⟩
      messages := rfl }

end Command
end PanelQuery
