import PanelQuery.Service.Client

/-!
# The service - deliveries

How the client reads what the network delivers.  A text that came with a status of success is a
response, whatever the text is; any other status fails with the text as it came; and an exchange
that broke off fails by the way it broke off, before the status or after it.

Main results:

- `isDataOf_iff`: every text has one value as its data.
- `Delivery.yields_iff`: every delivery yields one result, the one that `Delivery.outcome` gives.
- `Client.transport_eq_iff`: the transport of a client yields what the delivery yields.
-/

namespace PanelQuery

/-! ## White space is no JSON -/

namespace Json

/-- A character of white space opens neither a string, a list, an object nor a word, and begins no
number. -/
theorem not_opens_of_isBlank {c : Char} (h : Text.isBlank c = true) :
    (∀ d ∈ ['"', '[', '{', 'n', 't', 'f', '-'], c ≠ d) ∧ c.isDigit = false := by
  constructor
  · rintro d hd rfl
    have hall : ['"', '[', '{', 'n', 't', 'f', '-'].all (fun e => !Text.isBlank e) = true := by
      decide
    have hnot := List.all_eq_true.1 hall _ hd
    simp [h] at hnot
  · refine Bool.eq_false_iff.2 fun hdigit => ?_
    rw [Char.isDigit_iff_toNat] at hdigit
    obtain ⟨r, hr, hlow, hhigh⟩ := Text.CharSet.contains_iff.1 h
    have hranges : ∀ r ∈ Text.blankRanges, r.2 < '0'.toNat ∨ '9'.toNat < r.1 := by decide
    have := hranges r hr
    omega

theorem readNumber_eq_none_of_isBlank {c : Char} (h : Text.isBlank c = true) (cs : List Char) :
    readNumber (c :: cs) = none := by
  obtain ⟨hopens, hdigit⟩ := not_opens_of_isBlank h
  have hminus : spanMinus (c :: cs) = (false, c :: cs) := by
    unfold spanMinus
    split
    · rename_i hcons
      exact absurd (List.cons.inj hcons).1 (hopens '-' (by simp))
    · rfl
  have hwhole : readWhole (c :: cs) = none := by simp [readWhole, spanDigits, hdigit]
  have hnumeral : readNumeral (c :: cs) = none := by simp [readNumeral, hminus, hwhole]
  unfold readNumber
  split
  · rfl
  · rename_i hsome
    simp [hnumeral] at hsome

/-- No draft begins with white space that JSON does not skip. -/
theorem readDraft_eq_none_of_isBlank (depth : Nat) {cs : List Char}
    (h : ∀ c ∈ cs, Text.isBlank c = true) : readDraft depth cs = none := by
  -- JSON skips only some of the white space; what it stops at is white space still.
  have hrest : ∀ c ∈ cs.dropWhile isBlank, Text.isBlank c = true := fun c hc =>
    h c ((List.dropWhile_sublist _).subset hc)
  unfold readDraft
  rw [afterBlanks, Option.map_eq_none_iff]
  cases hcs : cs.dropWhile isBlank with
  | nil => rfl
  | cons c rest =>
      have hc : Text.isBlank c = true := hrest c (by simp [hcs])
      obtain ⟨hopens, -⟩ := not_opens_of_isBlank hc
      simp only [List.forall_mem_cons] at hopens
      simp [hopens, readNumber_eq_none_of_isBlank hc]

/-- A text of white space is no JSON. -/
theorem parse?_eq_none_of_isBlankText {text : String} (h : Text.isBlankText text = true) :
    parse? text = none := by
  have hdraft : readDraft text.length text.toList = none :=
    readDraft_eq_none_of_isBlank _ (by simpa [Text.isBlankText] using h)
  simp [parse?, Draft.parse?, hdraft]

end Json

namespace Service

/-! ## The specification -/

/-- A value is the data of a text: null if the text is empty or white space, what it stands for if
it is JSON, and otherwise the text itself. -/
inductive IsDataOf (text : String) : Json → Prop where
  | blank : (∀ c ∈ text.toList, Text.isBlank c = true) → IsDataOf text .null
  | parsed {value : Json} : Json.parse? text = some value → IsDataOf text value
  | plain : (∃ c ∈ text.toList, Text.isBlank c = false) → Json.parse? text = none →
      IsDataOf text (.string text)

/-- What an exchange of messages that broke off counts as: first a timeout, then a connection that
could not be made, and else a request that could not be carried out. -/
inductive Breakdown.CountsAs (b : Breakdown) : Failure → Prop where
  | timeout : b.timedOut = true → b.CountsAs .timeout
  | unavailable : b.timedOut = false → b.connecting = true → b.CountsAs .unavailable
  | unsendable : b.timedOut = false → b.connecting = false → b.CountsAs (.unsendable b.detail)

/-- What a delivery yields. -/
inductive Delivery.Yields : Delivery → Except Failure Response → Prop where
  | response {status : Nat} {text : String} {data : Json} : 200 ≤ status → status ≤ 299 →
      IsDataOf text data → Yields (.answered status (.ok text)) (.ok ⟨status, data⟩)
  | refused {status : Nat} {text : String} : status < 200 ∨ 299 < status →
      Yields (.answered status (.ok text)) (.error (.status status text))
  | brokenWithin {status : Nat} {b : Breakdown} {failure : Failure} : b.CountsAs failure →
      Yields (.answered status (.error b)) (.error failure)
  | brokenBefore {b : Breakdown} {failure : Failure} : b.CountsAs failure →
      Yields (.broken b) (.error failure)

/-! ## What the client reads -/

variable {text : String}

theorem isBlankText_iff :
    Text.isBlankText text = true ↔ ∀ c ∈ text.toList, Text.isBlank c = true := by
  rw [Text.isBlankText, List.all_eq_true]

theorem not_isBlankText_iff :
    ¬ Text.isBlankText text = true ↔ ∃ c ∈ text.toList, Text.isBlank c = false := by
  simp [Text.isBlankText]

theorem dataOf_of_isBlankText (h : Text.isBlankText text = true) : dataOf text = .null := by
  rw [dataOf, if_pos h]

/-- JSON is read wherever it stands, for white space is none. -/
theorem dataOf_of_parse {value : Json} (h : Json.parse? text = some value) :
    dataOf text = value := by
  have hword : ¬ Text.isBlankText text = true := by
    intro hblank
    simp [Json.parse?_eq_none_of_isBlankText hblank] at h
  rw [dataOf, if_neg hword, h]
  rfl

theorem dataOf_of_parse_eq_none (hword : ¬ Text.isBlankText text = true)
    (h : Json.parse? text = none) : dataOf text = .string text := by
  rw [dataOf, if_neg hword, h]
  rfl

/-- Every text has one value as its data. -/
theorem isDataOf_iff {value : Json} : IsDataOf text value ↔ value = dataOf text := by
  constructor
  · intro h
    cases h with
    | blank hblank => exact (dataOf_of_isBlankText (isBlankText_iff.2 hblank)).symm
    | parsed hparse => exact (dataOf_of_parse hparse).symm
    | plain hword hparse =>
        exact (dataOf_of_parse_eq_none (not_isBlankText_iff.2 hword) hparse).symm
  · rintro rfl
    by_cases hblank : Text.isBlankText text = true
    · rw [dataOf_of_isBlankText hblank]
      exact .blank (isBlankText_iff.1 hblank)
    · cases hparse : Json.parse? text with
      | some value =>
          rw [dataOf_of_parse hparse]
          exact .parsed hparse
      | none =>
          rw [dataOf_of_parse_eq_none hblank hparse]
          exact .plain (not_isBlankText_iff.1 hblank) hparse

theorem Breakdown.countsAs_iff {b : Breakdown} {failure : Failure} :
    b.CountsAs failure ↔ failure = b.toFailure := by
  constructor
  · intro h
    cases h with
    | timeout ht => simp [toFailure, ht]
    | unavailable ht hc => simp [toFailure, ht, hc]
    | unsendable ht hc => simp [toFailure, ht, hc]
  · rintro rfl
    obtain ⟨timedOut, connecting, detail⟩ := b
    cases timedOut with
    | true => exact .timeout rfl
    | false =>
        cases connecting with
        | true => exact .unavailable rfl rfl
        | false => exact .unsendable rfl rfl

theorem isSuccess_iff {status : Nat} : isSuccess status = true ↔ 200 ≤ status ∧ status ≤ 299 := by
  simp [isSuccess]

/-- A delivery yields one result. -/
theorem Delivery.yields_iff {d : Delivery} {result : Except Failure Response} :
    d.Yields result ↔ result = d.outcome := by
  constructor
  · intro h
    cases h with
    | response hlow hhigh hdata =>
        rw [outcome, if_pos (isSuccess_iff.2 ⟨hlow, hhigh⟩), isDataOf_iff.1 hdata]
    | refused hstatus => rw [outcome, if_neg (by rw [isSuccess_iff]; omega)]
    | brokenWithin hb => rw [outcome, Breakdown.countsAs_iff.1 hb]
    | brokenBefore hb => rw [outcome, Breakdown.countsAs_iff.1 hb]
  · rintro rfl
    cases d with
    | broken b => exact .brokenBefore (Breakdown.countsAs_iff.2 rfl)
    | answered status text =>
        cases text with
        | error b => exact .brokenWithin (Breakdown.countsAs_iff.2 rfl)
        | ok text =>
            rw [outcome]
            split
            · rename_i hs
              obtain ⟨hlow, hhigh⟩ := isSuccess_iff.1 hs
              exact .response hlow hhigh (isDataOf_iff.2 rfl)
            · rename_i hs
              rw [isSuccess_iff] at hs
              exact .refused (by omega)

namespace Client

/-- What is delivered for a request: what the network delivers for its message, or a breakdown if
there is no message for it. -/
def delivery (c : Client) (network : Network) (r : Request) : Delivery :=
  match c.message r with
  | .ok m => network m
  | .error detail => .broken ⟨false, false, detail⟩

theorem transport_eq (c : Client) (network : Network) (r : Request) :
    c.transport network r = (c.delivery network r).outcome := by
  unfold transport delivery
  cases c.message r with
  | ok m => rfl
  | error detail => rfl

theorem transport_eq_iff {c : Client} {network : Network} {r : Request}
    {result : Except Failure Response} :
    c.transport network r = result ↔ (c.delivery network r).Yields result := by
  rw [transport_eq, Delivery.yields_iff, eq_comm]

end Client
end Service
end PanelQuery
