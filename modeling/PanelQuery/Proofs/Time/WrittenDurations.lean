import PanelQuery.Proofs.Text.WrittenIntegers
import PanelQuery.Time.Duration

/-!
# Time - what is read as a duration

A written duration is an integer and the letter of a unit.  It is read if the integer has 64 bits
and the duration is not too long.  The products on the way to its seconds have to be integers of 64
bits as well, but they never refuse a duration that is short enough, and none of them is cut off.

Main results:

- `DurationUnit.secondsIn?_eq`: the seconds of a number of units are their product, or nothing.
- `Span.parse_reads_durations`: which texts are durations, how long they are, and that no others
  are.
-/

namespace PanelQuery
namespace Time

open Text

/-! ## Units -/

namespace DurationUnit

theorem ofLetter?_eq_some_iff {c : Char} {u : DurationUnit} :
    ofLetter? c = some u ↔ c = u.letter := by
  constructor
  · intro h
    have hletter := List.find?_some h
    rw [beq_iff_eq] at hletter
    exact hletter.symm
  · rintro rfl
    exact ofLetter?_letter u

/-- The factors of a unit make up its seconds. -/
theorem foldl_factors (u : DurationUnit) (n : Int) : u.factors.foldl (· * ·) n = n * u.seconds := by
  cases u <;> simp only [factors, seconds, List.foldl_cons, List.foldl_nil] <;> omega

theorem one_le_of_mem_factors {u : DurationUnit} {f : Int} (h : f ∈ u.factors) : 1 ≤ f := by
  cases u <;> simp only [factors, List.mem_cons, List.not_mem_nil, or_false] at h <;> omega

/-- The seconds of a number of units are the product, if that is an integer of 64 bits: no product
on the way is refused before the last one is. -/
theorem secondsIn?_eq (u : DurationUnit) {n : Int} (hn : isInteger64 n = true) :
    u.secondsIn? n = if isInteger64 (n * u.seconds) then some (n * u.seconds) else none := by
  rw [secondsIn?, foldlM_product? (fun _ => one_le_of_mem_factors) hn, foldl_factors]

end DurationUnit

/-! ## Spans -/

/-- So many seconds are a span: it has `2 ^ 63 - 1` milliseconds at most, forward or backward. -/
def Span.IsInRange (seconds : Int) : Prop :=
  -Span.greatestMillis ≤ seconds * 1000 ∧ seconds * 1000 ≤ Span.greatestMillis

theorem Span.ofSeconds?_eq_some_iff {seconds : Int} {span : Span} :
    Span.ofSeconds? seconds = some span ↔ Span.IsInRange seconds ∧ span.seconds = seconds := by
  have hrange : (seconds * 1000).natAbs ≤ Span.greatestMillis.natAbs ↔ Span.IsInRange seconds := by
    simp only [Span.IsInRange, Span.greatestMillis]
    omega
  unfold Span.ofSeconds?
  by_cases h : Span.IsInRange seconds
  · rw [if_pos (hrange.2 h), Option.some.injEq]
    constructor
    · rintro rfl
      exact ⟨h, rfl⟩
    · rintro ⟨-, rfl⟩
      rfl
  · rw [if_neg (mt hrange.1 h)]
    simp [h]

/-- The seconds of a span are an integer of 64 bits, with room to spare. -/
theorem Span.IsInRange.isInteger64 {seconds : Int} (h : Span.IsInRange seconds) :
    Text.isInteger64 seconds = true := by
  have hleast : leastMagnitude = 9223372036854775808 := rfl
  have hgreatest : greatestInteger = 9223372036854775807 := rfl
  rcases h with ⟨hlow, hhigh⟩
  rw [Span.greatestMillis] at hlow hhigh
  rw [isInteger64_iff, hleast, hgreatest]
  omega

/-- A number of units is a span exactly if its seconds are: the products on the way do not refuse
one. -/
theorem DurationUnit.bind_secondsIn?_eq_some_iff {u : DurationUnit} {n : Int} {span : Span}
    (hn : isInteger64 n = true) :
    (u.secondsIn? n).bind Span.ofSeconds? = some span ↔
      Span.IsInRange (n * u.seconds) ∧ span.seconds = n * u.seconds := by
  rw [u.secondsIn?_eq hn]
  by_cases hproduct : isInteger64 (n * u.seconds) = true
  · rw [if_pos hproduct, Option.bind_some]
    exact Span.ofSeconds?_eq_some_iff
  · rw [if_neg hproduct, Option.bind_none]
    simp only [reduceCtorEq, false_iff]
    intro h
    exact hproduct h.1.isInteger64

/-! ## Texts -/

/-- A text states a number of units: without white space around it and in small letters, it is an
integer with the letter of the unit behind it. -/
def IsDuration (text : String) (n : Int) (u : DurationUnit) : Prop :=
  ∃ number, (durationText text).toList = number ++ [u.letter] ∧ IsInteger number n

section

variable {text : String} {number : List Char} {u : DurationUnit}

theorem bind_getLast?_letter (number : List Char) (u : DurationUnit) :
    (number ++ [u.letter]).getLast?.bind DurationUnit.ofLetter? = some u := by
  rw [List.getLast?_concat, Option.bind_some, DurationUnit.ofLetter?_letter]

/-- A text that ends in a unit is read as the number before it. -/
theorem Span.parse_eq_ok_iff_of_unit (h : (durationText text).toList = number ++ [u.letter])
    {span : Span} :
    Span.parse text = .ok span ↔
      ∃ n, IsInteger number n ∧ isInteger64 n = true ∧ Span.IsInRange (n * u.seconds) ∧
        span.seconds = n * u.seconds := by
  have hparse : Span.parse text = .ok span ↔
      ∃ n, readInteger (String.ofList number) = .ok n ∧
        (u.secondsIn? n).bind Span.ofSeconds? = some span := by
    simp only [Span.parse, h, bind_getLast?_letter, List.dropLast_concat]
    cases readInteger (String.ofList number) with
    | error fault => simp
    | ok n => cases hspan : (u.secondsIn? n).bind Span.ofSeconds? <;> simp [hspan]
  rw [hparse]
  refine exists_congr fun n => ?_
  rw [readInteger_eq_ok_iff, String.toList_ofList, and_assoc]
  refine and_congr_right fun _ => and_congr_right fun hn => ?_
  exact u.bind_secondsIn?_eq_some_iff hn

theorem Span.parse_of_no_unit
    (h : ∀ number (u : DurationUnit), (durationText text).toList ≠ number ++ [u.letter]) :
    Span.parse text = .error (.noUnit (durationText text)) := by
  have hunit : (durationText text).toList.getLast?.bind DurationUnit.ofLetter? = none := by
    cases hlast : (durationText text).toList.getLast? with
    | none => rfl
    | some c =>
        rcases List.getLast?_eq_some_iff.1 hlast with ⟨number, hc⟩
        cases hletter : DurationUnit.ofLetter? c with
        | none => exact hletter
        | some u =>
            rw [DurationUnit.ofLetter?_eq_some_iff] at hletter
            exact absurd (hletter ▸ hc) (h number u)
  simp only [Span.parse, hunit]

/-- A text that ends in the letter of a unit states numbers of that unit only. -/
theorem isDuration_iff_of_unit (h : (durationText text).toList = number ++ [u.letter]) {n : Int}
    {v : DurationUnit} : IsDuration text n v ↔ v = u ∧ IsInteger number n := by
  constructor
  · rintro ⟨number', h', hn⟩
    rw [h] at h'
    have hunit := bind_getLast?_letter number' v
    rw [← h', bind_getLast?_letter] at hunit
    rcases List.append_inj' h' rfl with ⟨rfl, -⟩
    exact ⟨(Option.some.inj hunit).symm, hn⟩
  · rintro ⟨rfl, hn⟩
    exact ⟨number, h, hn⟩

/-- What is read as a duration: a number of 64 bits of some unit, whose seconds are a span. -/
theorem Span.parse_eq_ok_iff {span : Span} :
    Span.parse text = .ok span ↔
      ∃ n u, IsDuration text n u ∧ isInteger64 n = true ∧ Span.IsInRange (n * u.seconds) ∧
        span.seconds = n * u.seconds := by
  -- The last character alone decides on the unit, and with that on what is read as a number.
  by_cases hunit : ∃ number, ∃ u : DurationUnit, (durationText text).toList = number ++ [u.letter]
  · rcases hunit with ⟨number, u, h⟩
    rw [Span.parse_eq_ok_iff_of_unit h]
    constructor
    · rintro ⟨n, hnumber, hrest⟩
      exact ⟨n, u, ⟨number, h, hnumber⟩, hrest⟩
    · rintro ⟨n, v, hduration, hrest⟩
      rcases (isDuration_iff_of_unit h).1 hduration with ⟨rfl, hnumber⟩
      exact ⟨n, hnumber, hrest⟩
  · rw [Span.parse_of_no_unit fun number u h => hunit ⟨number, u, h⟩]
    simp only [reduceCtorEq, false_iff]
    rintro ⟨n, u, ⟨number, h, -⟩, -⟩
    exact hunit ⟨number, u, h⟩

/-- A number of 64 bits of some unit that is not read is too long: nothing else is wrong with it. -/
theorem Span.parse_of_not_isInRange {n : Int} (h : IsDuration text n u)
    (hn : isInteger64 n = true) (hlong : ¬ Span.IsInRange (n * u.seconds)) :
    Span.parse text = .error (.outOfRange (durationText text)) := by
  rcases h with ⟨number, htext, hnumber⟩
  have hread : readInteger (String.ofList number) = .ok n := by
    rw [readInteger_eq_ok_iff, String.toList_ofList]
    exact ⟨hnumber, hn⟩
  have hnone : (u.secondsIn? n).bind Span.ofSeconds? = none := by
    rw [Option.eq_none_iff_forall_ne_some]
    intro span hspan
    exact hlong ((u.bind_secondsIn?_eq_some_iff hn).1 hspan).1
  simp only [Span.parse, htext, bind_getLast?_letter, List.dropLast_concat, hread, hnone]

end

/-- Which texts are read as durations, and how long these are: numbers of 64 bits of some unit whose
seconds are a span, and that span is the result.  Every other text is refused; a number of units
that is too long is refused as such.  The products on the way are exact wherever they are integers
of 64 bits, and refused elsewhere. -/
theorem Span.parse_reads_durations (text : String) :
    (∀ span, Span.parse text = .ok span ↔
      ∃ n u, IsDuration text n u ∧ isInteger64 n = true ∧ Span.IsInRange (n * u.seconds) ∧
        span.seconds = n * u.seconds) ∧
      ((∃ fault, Span.parse text = .error fault) ↔
        ∀ n u, IsDuration text n u → isInteger64 n = true → ¬ Span.IsInRange (n * u.seconds)) ∧
      (∀ n u, IsDuration text n u → isInteger64 n = true → ¬ Span.IsInRange (n * u.seconds) →
        Span.parse text = .error (.outOfRange (durationText text))) ∧
      ∀ n (u : DurationUnit), isInteger64 n = true → u.secondsIn? n =
        if isInteger64 (n * u.seconds) then some (n * u.seconds) else none := by
  refine ⟨fun span => Span.parse_eq_ok_iff, ?_, fun n u => Span.parse_of_not_isInRange, ?_⟩
  · cases h : Span.parse text with
    | ok span =>
        rcases Span.parse_eq_ok_iff.1 h with ⟨n, u, hduration, hn, hrange, -⟩
        simp only [reduceCtorEq, exists_false, false_iff]
        intro hnone
        exact hnone n u hduration hn hrange
    | error fault =>
        have hnone : ∀ span, Span.parse text ≠ .ok span := by
          intro span hspan
          rw [h] at hspan
          cases hspan
        simp only [Except.error.injEq, exists_eq', true_iff]
        intro n u hduration hn hrange
        exact hnone ⟨n * u.seconds⟩ (Span.parse_eq_ok_iff.2 ⟨n, u, hduration, hn, hrange, rfl⟩)
  · intro n u hn
    exact u.secondsIn?_eq hn

/-- The sign, leading zeros, capitals and white space around a duration are all allowed. -/
example : Span.parse " -007D\t" = .ok ⟨-604800⟩ := by decide +kernel

/-- A number of years is counted in days first, and that product may already be too large. -/
example : Span.parse "25269513832267y" =
    .error (.outOfRange "25269513832267y") := by decide +kernel

end Time
end PanelQuery
