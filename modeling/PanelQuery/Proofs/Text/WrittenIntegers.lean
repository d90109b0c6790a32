import Mathlib.Data.Nat.Digits.Defs
import PanelQuery.Text.Integer

/-!
# Text - written integers

An integer is written as decimal digits behind one sign at most.  Reading it goes digit by digit and
stops at the first prefix that is too large; here that is shown to be the same as taking the value
of all digits at once and asking whether it fits.  In the same way a chain of products, each of
which has to be an integer of 64 bits, is shown to be the product of all factors if that one fits.

Main results:

- `readDigits_eq_ok_iff`: digits are read as their value, if it lies within the bound.
- `readInteger_eq_ok_iff`: what is read as an integer of 64 bits.
- `foldlM_product?`: factors of at least one can be multiplied in one by one.
-/

namespace PanelQuery
namespace Text

/-! ## Digits -/

/-- The number that decimal digits stand for, the most significant one first. -/
def decimalValue (digits : List Char) : Nat :=
  Nat.ofDigits 10 (digits.reverse.map fun c => c.toNat - '0'.toNat)

theorem decimalValue_cons (c : Char) (digits : List Char) :
    decimalValue (c :: digits) =
      (c.toNat - '0'.toNat) * 10 ^ digits.length + decimalValue digits := by
  simp only [decimalValue, List.reverse_cons, List.map_append, List.map_cons, List.map_nil,
    Nat.ofDigits_append, Nat.ofDigits_singleton, List.length_map, List.length_reverse]
  ring

/-- Taking in one more digit does not change what all digits stand for behind a number. -/
theorem shifted_add_decimalValue_cons (n : Nat) (c : Char) (digits : List Char) :
    n * 10 ^ (c :: digits).length + decimalValue (c :: digits) =
      (n * 10 + (c.toNat - '0'.toNat)) * 10 ^ digits.length + decimalValue digits := by
  rw [decimalValue_cons, List.length_cons, pow_succ]
  ring

theorem le_shifted_add (n value : Nat) (digits : List Char) :
    n ≤ n * 10 ^ digits.length + value := by
  have hpow : 0 < 10 ^ digits.length := by positivity
  have hle : n ≤ n * 10 ^ digits.length := Nat.le_mul_of_pos_right n hpow
  omega

/-- Digits are read as what they stand for, if that lies within the bound: then every number on the
way does too, because it only grows. -/
theorem readDigits_eq_ok_iff {bound n m : Nat} {fault : IntegerFault} {digits : List Char}
    (hn : n ≤ bound) :
    readDigits bound fault n digits = .ok m ↔
      (∀ c ∈ digits, c.isDigit = true) ∧ m = n * 10 ^ digits.length + decimalValue digits ∧
        m ≤ bound := by
  induction digits generalizing n with
  | nil =>
      simp only [readDigits, Except.ok.injEq, List.not_mem_nil, List.length_nil, pow_zero]
      have hempty : decimalValue [] = 0 := rfl
      rw [hempty]
      constructor
      · rintro rfl
        simp [hn]
      · rintro ⟨-, rfl, -⟩
        simp
  | cons c digits ih =>
      rw [shifted_add_decimalValue_cons, List.forall_mem_cons, readDigits]
      by_cases hdigit : c.isDigit = true
      · simp only [hdigit, Bool.not_true, Bool.false_eq_true, if_false, true_and]
        by_cases hlarge : bound < n * 10 + (c.toNat - '0'.toNat)
        · -- The number is too large already, and what is behind only makes it larger.
          have hgrows :=
            le_shifted_add (n * 10 + (c.toNat - '0'.toNat)) (decimalValue digits) digits
          rw [if_pos hlarge]
          simp only [reduceCtorEq, false_iff]
          rintro ⟨-, rfl, hle⟩
          omega
        · rw [if_neg hlarge]
          exact ih (by omega)
      · simp [hdigit]

/-! ## Integers -/

/-- What may stand before the digits of an integer. -/
inductive Sign where
  | absent
  | plus
  | minus
deriving DecidableEq, Repr

namespace Sign

/-- How a sign is written. -/
def mark : Sign → List Char
  | .absent => []
  | .plus => ['+']
  | .minus => ['-']

/-- The number of a sign and a magnitude. -/
def signed (s : Sign) (magnitude : Nat) : Int :=
  match s with
  | .minus => -(magnitude : Int)
  | _ => magnitude

/-- The greatest magnitude that an integer of 64 bits may have behind a sign. -/
def bound : Sign → Nat
  | .minus => leastMagnitude
  | _ => greatestInteger

/-- What is wrong with a greater magnitude. -/
def fault : Sign → IntegerFault
  | .minus => .tooSmall
  | _ => .tooLarge

/-- A sign is all that a text has before its digits: where there is none, the text does not begin
with the mark of one. -/
def Leads (s : Sign) (digits : List Char) : Prop :=
  s = .absent → ∀ c ∈ digits.head?, c ≠ '+' ∧ c ≠ '-'

theorem exists_leads (text : List Char) :
    ∃ (s : Sign) (digits : List Char), text = s.mark ++ digits ∧ s.Leads digits := by
  rcases text with _ | ⟨c, rest⟩
  · exact ⟨.absent, [], rfl, by simp [Leads]⟩
  · by_cases hplus : c = '+'
    · exact ⟨.plus, rest, by rw [hplus]; rfl, by simp [Leads]⟩
    · by_cases hminus : c = '-'
      · exact ⟨.minus, rest, by rw [hminus]; rfl, by simp [Leads]⟩
      · exact ⟨.absent, c :: rest, rfl, by simp [Leads, hplus, hminus]⟩

theorem leads_of_digits (s : Sign) {digits : List Char} (h : ∀ c ∈ digits, c.isDigit = true) :
    s.Leads digits := by
  intro _ c hc
  have hdigit := h c (List.mem_of_mem_head? hc)
  constructor
  · rintro rfl
    exact absurd hdigit (by decide)
  · rintro rfl
    exact absurd hdigit (by decide)

/-- A text has one sign and one row of digits only. -/
theorem mark_append_inj {s t : Sign} {digits digits' : List Char} (hs : s.Leads digits)
    (ht : t.Leads digits') (h : s.mark ++ digits = t.mark ++ digits') :
    s = t ∧ digits = digits' := by
  cases s <;> cases t <;> grind [mark, Leads]

end Sign

/-- A text is an integer: a sign or none, and then at least one digit and nothing else. -/
def IsInteger (text : List Char) (n : Int) : Prop :=
  ∃ (s : Sign) (digits : List Char), text = s.mark ++ digits ∧ digits ≠ [] ∧
    (∀ c ∈ digits, c.isDigit = true) ∧ n = s.signed (decimalValue digits)

theorem isInteger_append_iff {s : Sign} {digits : List Char} (hs : s.Leads digits) {n : Int} :
    IsInteger (s.mark ++ digits) n ↔
      digits ≠ [] ∧ (∀ c ∈ digits, c.isDigit = true) ∧ n = s.signed (decimalValue digits) := by
  constructor
  · rintro ⟨t, digits', htext, hne, hdigits, hn⟩
    rcases Sign.mark_append_inj hs (t.leads_of_digits hdigits) htext with ⟨rfl, rfl⟩
    exact ⟨hne, hdigits, hn⟩
  · rintro ⟨hne, hdigits, hn⟩
    exact ⟨s, digits, rfl, hne, hdigits, hn⟩

theorem isInteger64_iff {n : Int} :
    isInteger64 n = true ↔ -(leastMagnitude : Int) ≤ n ∧ n ≤ (greatestInteger : Int) := by
  simp [isInteger64]

theorem isInteger64_signed_iff {s : Sign} {magnitude : Nat} :
    isInteger64 (s.signed magnitude) = true ↔ magnitude ≤ s.bound := by
  have hgreatest : 0 ≤ (greatestInteger : Int) := Int.natCast_nonneg _
  have hleast : 0 ≤ (leastMagnitude : Int) := Int.natCast_nonneg _
  rw [isInteger64_iff]
  cases s <;> simp only [Sign.signed, Sign.bound] <;> omega

/-- A text is read by its sign, and then digit by digit up to the bound for the sign. -/
theorem readInteger_of_leads {text : String} {s : Sign} {digits : List Char} (hs : s.Leads digits)
    (hne : digits ≠ []) (htext : text.toList = s.mark ++ digits) :
    readInteger text = (readDigits s.bound s.fault 0 digits).map s.signed := by
  rcases digits with _ | ⟨c, rest⟩
  · exact absurd rfl hne
  · cases s with
    | absent =>
        -- Behind no sign the first digit is no mark, so none of the patterns for a sign fits.
        have hplain := hs rfl c rfl
        rw [readInteger, htext]
        simp only [Sign.mark, List.nil_append]
        split <;> simp_all [Sign.bound, Sign.fault]
        rfl
    | plus =>
        rw [readInteger, htext]
        rfl
    | minus =>
        rw [readInteger, htext]
        rfl

theorem readInteger_of_no_digits {text : String} {s : Sign} (htext : text.toList = s.mark) :
    ∃ fault, readInteger text = .error fault := by
  rw [readInteger, htext]
  cases s <;> exact ⟨_, rfl⟩

/-- What is read as an integer of 64 bits is an integer, and it is one of 64 bits. -/
theorem readInteger_eq_ok_iff {text : String} {n : Int} :
    readInteger text = .ok n ↔ IsInteger text.toList n ∧ isInteger64 n = true := by
  rcases Sign.exists_leads text.toList with ⟨s, digits, htext, hs⟩
  rw [htext, isInteger_append_iff hs]
  by_cases hne : digits = []
  · rw [hne, List.append_nil] at htext
    rcases readInteger_of_no_digits htext with ⟨fault, hfault⟩
    simp [hfault, hne]
  · rw [readInteger_of_leads hs hne htext]
    cases hread : readDigits s.bound s.fault 0 digits with
    | ok m =>
        have hm := (readDigits_eq_ok_iff (Nat.zero_le _)).1 hread
        rw [Nat.zero_mul, Nat.zero_add] at hm
        rcases hm with ⟨hdigits, rfl, hle⟩
        simp only [Except.map, Except.ok.injEq]
        constructor
        · rintro rfl
          exact ⟨⟨hne, hdigits, rfl⟩, isInteger64_signed_iff.2 hle⟩
        · rintro ⟨⟨-, -, rfl⟩, -⟩
          rfl
    | error fault =>
        simp only [Except.map, reduceCtorEq, false_iff]
        rintro ⟨⟨-, hdigits, rfl⟩, hfits⟩
        have hok : readDigits s.bound s.fault 0 digits = .ok (decimalValue digits) := by
          rw [readDigits_eq_ok_iff (Nat.zero_le _), Nat.zero_mul, Nat.zero_add]
          exact ⟨hdigits, rfl, isInteger64_signed_iff.1 hfits⟩
        rw [hread] at hok
        cases hok

/-! ## Products -/

/-- A factor of a product is not greater than the product, and neither is it less. -/
theorem isInteger64_of_mul {n factor : Int} (hfactor : 1 ≤ factor)
    (h : isInteger64 (n * factor) = true) : isInteger64 n = true := by
  rw [isInteger64_iff] at h ⊢
  have hgreatest : 0 ≤ (greatestInteger : Int) := Int.natCast_nonneg _
  have hleast : 0 ≤ (leastMagnitude : Int) := Int.natCast_nonneg _
  rcases Int.le_total 0 n with hn | hn
  · have hle : n * 1 ≤ n * factor := Int.mul_le_mul_of_nonneg_left hfactor hn
    omega
  · have hle : n * factor ≤ n * 1 := Int.mul_le_mul_of_nonpos_left hn hfactor
    omega

theorem product?_eq_some_iff {m n k : Int} :
    product? m n = some k ↔ isInteger64 (m * n) = true ∧ k = m * n := by
  unfold product?
  split
  · rename_i h
    rw [Option.some.injEq]
    simp [h, eq_comm]
  · rename_i h
    simp [h]

theorem product?_eq_none_iff {m n : Int} : product? m n = none ↔ isInteger64 (m * n) = false := by
  simp [product?]

/-- If the product of all factors is an integer of 64 bits, so is the number they are multiplied to.
-/
theorem isInteger64_of_foldl_mul {factors : List Int} (hfactors : ∀ f ∈ factors, 1 ≤ f) {n : Int}
    (h : isInteger64 (factors.foldl (· * ·) n) = true) : isInteger64 n = true := by
  induction factors generalizing n with
  | nil => exact h
  | cons f factors ih =>
      rw [List.forall_mem_cons] at hfactors
      exact isInteger64_of_mul hfactors.1 (ih hfactors.2 h)

/-- Factors of at least one can be multiplied in one by one: if their product is an integer of 64
bits, then so is every product on the way, and otherwise one of them is not. -/
theorem foldlM_product? {factors : List Int} (hfactors : ∀ f ∈ factors, 1 ≤ f) {n : Int}
    (hn : isInteger64 n = true) :
    factors.foldlM product? n =
      if isInteger64 (factors.foldl (· * ·) n) then some (factors.foldl (· * ·) n) else none := by
  induction factors generalizing n with
  | nil => simp [hn]
  | cons f factors ih =>
      rw [List.forall_mem_cons] at hfactors
      rw [List.foldlM_cons, List.foldl_cons]
      by_cases hproduct : isInteger64 (n * f) = true
      · have hstep : product? n f = some (n * f) := product?_eq_some_iff.2 ⟨hproduct, rfl⟩
        rw [hstep]
        exact ih hfactors.2 hproduct
      · have hstep : product? n f = none := by
          rw [product?_eq_none_iff]
          simpa using hproduct
        have hall : ¬ isInteger64 (factors.foldl (· * ·) (n * f)) = true :=
          fun h => hproduct (isInteger64_of_foldl_mul hfactors.2 h)
        rw [hstep, if_neg hall]
        rfl

end Text
end PanelQuery
