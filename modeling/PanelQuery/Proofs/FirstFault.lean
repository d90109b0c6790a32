import Mathlib.Order.Defs.PartialOrder
import Mathlib.Tactic.Push
import Mathlib.Tactic.Tauto

/-!
# First faults

A check that goes from place to place and stops at the first fault reports that fault, whatever is
wrong further on.  The places and their faults are described apart from the check, and here is how
such descriptions are put together along with the checks.

Main results:

- `exists_isFirstFault_iff`: there is a first fault if there is a fault at all.
- `isFirstFault_iff_of_pairwise`: the first place with a fault is the least one, if places are in
  order.
- `ReportsFirst.bind`: a check followed by another one goes over the places of both.
-/

namespace PanelQuery

variable {ι φ α β : Type}

/-! ## The first of several faults -/

/-- A fault of one of some places, none of which has a fault before it. -/
def IsFirstFault (HasFault : ι → φ → Prop) (places : List ι) (fault : φ) : Prop :=
  ∃ before place after, places = before ++ place :: after ∧
    (∀ p ∈ before, ∀ f, ¬ HasFault p f) ∧ HasFault place fault

section

variable {HasFault : ι → φ → Prop} {place : ι} {places others : List ι} {fault : φ}

@[simp]
theorem not_isFirstFault_nil : ¬ IsFirstFault HasFault [] fault := by
  rintro ⟨before, place, after, hplaces, -⟩
  cases before <;> cases hplaces

@[simp]
theorem isFirstFault_cons :
    IsFirstFault HasFault (place :: places) fault ↔
      HasFault place fault ∨
        (∀ f, ¬ HasFault place f) ∧ IsFirstFault HasFault places fault := by
  constructor
  · rintro ⟨before, p, after, hplaces, hbefore, hfault⟩
    cases before with
    | nil =>
        obtain ⟨rfl, rfl⟩ := List.cons.inj hplaces
        exact .inl hfault
    | cons q before =>
        obtain ⟨rfl, rfl⟩ := List.cons.inj hplaces
        obtain ⟨hfirst, hrest⟩ := List.forall_mem_cons.1 hbefore
        exact .inr ⟨hfirst, before, p, after, rfl, hrest, hfault⟩
  · rintro (hfault | ⟨hfirst, before, p, after, rfl, hbefore, hfault⟩)
    · exact ⟨[], place, places, rfl, List.forall_mem_nil _, hfault⟩
    · exact ⟨place :: before, p, after, rfl, List.forall_mem_cons.2 ⟨hfirst, hbefore⟩, hfault⟩

theorem isFirstFault_append :
    IsFirstFault HasFault (places ++ others) fault ↔
      IsFirstFault HasFault places fault ∨
        (∀ p ∈ places, ∀ f, ¬ HasFault p f) ∧ IsFirstFault HasFault others fault := by
  induction places with
  | nil => simp
  | cons p places ih =>
      rw [List.cons_append, isFirstFault_cons, isFirstFault_cons, ih, List.forall_mem_cons]
      tauto

theorem exists_of_isFirstFault (h : IsFirstFault HasFault places fault) :
    ∃ p ∈ places, HasFault p fault := by
  obtain ⟨before, p, after, rfl, -, hfault⟩ := h
  exact ⟨p, List.mem_append_right before List.mem_cons_self, hfault⟩

/-- There is a first fault if there is a fault at all. -/
theorem exists_isFirstFault_iff :
    (∃ f, IsFirstFault HasFault places f) ↔ ∃ p ∈ places, ∃ f, HasFault p f := by
  constructor
  · rintro ⟨f, h⟩
    obtain ⟨p, hp, hfault⟩ := exists_of_isFirstFault h
    exact ⟨p, hp, f, hfault⟩
  · rintro ⟨p, hp, f, hfault⟩
    induction places with
    | nil => cases hp
    | cons q places ih =>
        by_cases hfirst : ∃ f, HasFault q f
        · obtain ⟨f, hf⟩ := hfirst
          exact ⟨f, isFirstFault_cons.2 (.inl hf)⟩
        · have hne : p ≠ q := fun heq => hfirst ⟨f, heq ▸ hfault⟩
          obtain ⟨g, hg⟩ := ih (List.mem_of_ne_of_mem hne hp)
          exact ⟨g, isFirstFault_cons.2 (.inr ⟨not_exists.1 hfirst, hg⟩)⟩

theorem forall_not_isFirstFault_iff :
    (∀ f, ¬ IsFirstFault HasFault places f) ↔ ∀ p ∈ places, ∀ f, ¬ HasFault p f := by
  rw [← not_exists, exists_isFirstFault_iff]
  push Not
  rfl

/-- The first place with a fault is the least one, if the places are in order. -/
theorem isFirstFault_iff_of_pairwise [Preorder ι] (hplaces : places.Pairwise (· < ·))
    (hmem : ∀ p f, HasFault p f → p ∈ places) :
    IsFirstFault HasFault places fault ↔
      ∃ p, HasFault p fault ∧ ∀ q < p, ∀ f, ¬ HasFault q f := by
  constructor
  · rintro ⟨before, p, after, rfl, hbefore, hfault⟩
    obtain ⟨-, hafter, -⟩ := List.pairwise_append.1 hplaces
    refine ⟨p, hfault, ?_⟩
    intro q hlt f hf
    rcases List.mem_append.1 (hmem q f hf) with hq | hq
    · exact hbefore q hq f hf
    · rcases List.mem_cons.1 hq with rfl | hq
      · exact lt_irrefl q hlt
      · exact lt_asymm hlt ((List.pairwise_cons.1 hafter).1 q hq)
  · rintro ⟨p, hfault, hleast⟩
    obtain ⟨before, after, rfl⟩ := List.append_of_mem (hmem p fault hfault)
    obtain ⟨-, -, hlt⟩ := List.pairwise_append.1 hplaces
    exact ⟨before, p, after, rfl, fun q hq => hleast q (hlt q hq p List.mem_cons_self), hfault⟩

end

/-! ## Checks that stop at the first fault -/

/-- A computation fails with the first fault of some places, and only with that. -/
def ReportsFirst (HasFault : ι → φ → Prop) (places : List ι) (x : Except φ α) : Prop :=
  ∀ fault, x = .error fault ↔ IsFirstFault HasFault places fault

namespace ReportsFirst

variable {HasFault : ι → φ → Prop} {place : ι} {places others : List ι} {x : Except φ α}

/-- A computation at a single place fails with what is wrong there. -/
theorem single (h : ∀ fault, x = .error fault ↔ HasFault place fault) :
    ReportsFirst HasFault [place] x := by
  intro fault
  simp [h fault]

theorem of_ne_error (h : ∀ fault, x ≠ .error fault) : ReportsFirst HasFault [] x := by
  intro fault
  simp [h fault]

theorem ok (a : α) : ReportsFirst HasFault [] (.ok a : Except φ α) :=
  of_ne_error nofun

/-- A computation that has succeeded found nothing wrong at its places. -/
theorem not_hasFault_of_ok (h : ReportsFirst HasFault places x) {a : α} (hx : x = .ok a) :
    ∀ p ∈ places, ∀ f, ¬ HasFault p f := by
  rw [← forall_not_isFirstFault_iff]
  intro f hf
  rw [(h f).2 hf] at hx
  cases hx

theorem exists_ok_iff (h : ReportsFirst HasFault places x) :
    (∃ a, x = .ok a) ↔ ∀ p ∈ places, ∀ f, ¬ HasFault p f := by
  constructor
  · rintro ⟨a, hx⟩
    exact h.not_hasFault_of_ok hx
  · intro hnone
    cases hx : x with
    | ok a => exact ⟨a, rfl⟩
    | error f => exact absurd ((h f).1 hx) (forall_not_isFirstFault_iff.2 hnone f)

theorem exists_error_iff (h : ReportsFirst HasFault places x) :
    (∃ fault, x = .error fault) ↔ ∃ p ∈ places, ∃ f, HasFault p f := by
  rw [← exists_isFirstFault_iff]
  exact exists_congr h

/-- A computation followed by another one goes over the places of both. -/
theorem bind {f : α → Except φ β} (hx : ReportsFirst HasFault places x)
    (hf : ∀ a, x = .ok a → ReportsFirst HasFault others (f a)) :
    ReportsFirst HasFault (places ++ others) (x >>= f) := by
  intro fault
  rw [isFirstFault_append]
  cases hcase : x with
  | error e =>
      have hfirst := (hx e).1 hcase
      have hsome : ¬ ∀ p ∈ places, ∀ f, ¬ HasFault p f := fun hnone =>
        forall_not_isFirstFault_iff.2 hnone e hfirst
      rw [← hx fault, hcase]
      simp [Bind.bind, Except.bind, hsome]
  | ok a =>
      have hnone := hx.not_hasFault_of_ok hcase
      rw [← hx fault, hcase]
      simp only [reduceCtorEq, false_or]
      exact ((hf a hcase) fault).trans ⟨fun h => ⟨hnone, h⟩, And.right⟩

theorem bind_pure {f : α → β} (hx : ReportsFirst HasFault places x) :
    ReportsFirst HasFault places (x >>= fun a => pure (f a)) := by
  rw [← List.append_nil places]
  exact hx.bind fun a _ => ok (f a)

/-- A computation that goes no further than the first place. -/
theorem stop {e : φ} (h : ∀ fault, HasFault place fault ↔ e = fault) :
    ReportsFirst HasFault (place :: places) (.error e : Except φ α) := by
  intro fault
  rw [isFirstFault_cons]
  simp [h]

/-- A computation that goes on, as nothing is wrong at the first place. -/
theorem pass (h : ∀ fault, ¬ HasFault place fault) (hx : ReportsFirst HasFault places x) :
    ReportsFirst HasFault (place :: places) x := by
  intro fault
  rw [isFirstFault_cons, hx fault]
  simp [h]

/-- A computation behind a condition that must not hold. -/
theorem guard {c : Prop} [Decidable c] {e : φ}
    (hplace : ∀ fault, HasFault place fault ↔ c ∧ e = fault)
    (hx : ¬ c → ReportsFirst HasFault places x) :
    ReportsFirst HasFault (place :: places) (if c then .error e else x) := by
  by_cases hc : c
  · rw [if_pos hc]
    exact stop fun fault => by simp [hplace, hc]
  · rw [if_neg hc]
    exact pass (fun fault => by simp [hplace, hc]) (hx hc)

end ReportsFirst

end PanelQuery
