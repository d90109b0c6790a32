import PanelQuery.Template.Segment

/-!
# Templates - the shapes of references

A reference is written in one of five shapes, and no two of them share a beginning that could be
taken for the other.  The shapes are stated here as a relation between name, format and text; the
readers of `Template.Segment` are then shown to take exactly such a text off the front of a
template.

Main results:

- `run_readReference_iff`: a reference is read exactly where a shape begins, and a bare name is read
  to its last character.
- `readReference_eq_none_iff`: no reference is read exactly where no shape begins.
-/

namespace PanelQuery
namespace Text

/-! ## What a reader takes and leaves -/

/-- What a reader takes off a text and the characters that it leaves. -/
def Reader.run {α : Type} (read : Reader α) (cs : List Char) : Option (α × List Char) :=
  (read cs).map fun p => (p.1, p.2.chars)

theorem Reader.run_eq_none_iff {α : Type} (read : Reader α) (cs : List Char) :
    Reader.run read cs = none ↔ read cs = none := by
  simp [Reader.run]

/-- A text does not go on with a character of a kind. -/
def StopsBefore (p : Char → Bool) (cs : List Char) : Prop :=
  ∀ c ∈ cs.head?, p c = false

@[simp]
theorem stopsBefore_nil (p : Char → Bool) : StopsBefore p [] := by
  simp [StopsBefore]

@[simp]
theorem stopsBefore_cons (p : Char → Bool) (c : Char) (cs : List Char) :
    StopsBefore p (c :: cs) ↔ p c = false := by
  simp [StopsBefore]

instance (p : Char → Bool) : DecidablePred (StopsBefore p)
  | [] => isTrue (stopsBefore_nil p)
  | c :: cs => decidable_of_iff (p c = false) (stopsBefore_cons p c cs).symm

/-- A nonempty text alone decides whether it goes on with a character of a kind. -/
theorem StopsBefore.append {p : Char → Bool} {cs ds : List Char} (hcs : StopsBefore p cs)
    (hds : cs = [] → StopsBefore p ds) : StopsBefore p (cs ++ ds) := by
  cases cs with
  | nil => exact hds rfl
  | cons c cs => simpa using hcs

/-- The longest run of characters of a kind is the one behind which the text stops. -/
theorem takeWhile_dropWhile_iff {p : Char → Bool} {cs body rest : List Char} :
    cs.takeWhile p = body ∧ cs.dropWhile p = rest ↔
      (∀ c ∈ body, p c = true) ∧ cs = body ++ rest ∧ StopsBefore p rest := by
  constructor
  · rintro ⟨rfl, rfl⟩
    refine ⟨?_, List.takeWhile_append_dropWhile.symm, ?_⟩
    · exact List.all_eq_true.1 List.all_takeWhile
    · intro c hc
      have hstop := List.head?_dropWhile_not p cs
      rw [Option.mem_def.1 hc] at hstop
      simpa using hstop
  · rintro ⟨hbody, rfl, hrest⟩
    rw [List.takeWhile_append_of_pos hbody, List.dropWhile_append_of_pos hbody]
    cases rest with
    | nil => simp
    | cons c rest =>
        have hc : p c = false := by simpa using hrest
        simp [hc]

end Text

namespace Template

open Text

/-! ## The shapes -/

/-- A name: one or more name characters. -/
def IsName (n : List Char) : Prop :=
  n ≠ [] ∧ ∀ c ∈ n, isNameChar c = true

/-- A format that a character ends: one or more other characters. -/
def IsFormat (stop : Char) (f : List Char) : Prop :=
  f ≠ [] ∧ stop ∉ f

/-- The five shapes of a reference: its name, the format that it asks for, and its text. -/
inductive Shape : List Char → Option (List Char) → List Char → Prop where
  | bare {n : List Char} (hn : IsName n) : Shape n none ('$' :: n)
  | braced {n : List Char} (hn : IsName n) : Shape n none (['$', '{'] ++ n ++ ['}'])
  | bracedAs {n f : List Char} (hn : IsName n) (hf : IsFormat '}' f) :
      Shape n (some f) (['$', '{'] ++ n ++ [':'] ++ f ++ ['}'])
  | bracketed {n : List Char} (hn : IsName n) : Shape n none (['[', '['] ++ n ++ [']', ']'])
  | bracketedAs {n f : List Char} (hn : IsName n) (hf : IsFormat ']' f) :
      Shape n (some f) (['[', '['] ++ n ++ [':'] ++ f ++ [']', ']'])

theorem Shape.isName {n raw : List Char} {f : Option (List Char)} (h : Shape n f raw) :
    IsName n := by
  cases h <;> assumption

/-- The opening mark of a shape tells which character ends its format. -/
theorem Shape.isFormat {n f raw : List Char} (h : Shape n (some f) raw) :
    (raw.head? = some '$' → IsFormat '}' f) ∧ (raw.head? = some '[' → IsFormat ']' f) := by
  cases h with
  | bracedAs hn hf => simp [hf]
  | bracketedAs hn hf => simp [hf]

/-- The first characters of a shape: an opening mark, and for two of the marks the name. -/
theorem Shape.opening {n raw : List Char} {f : Option (List Char)} (h : Shape n f raw) :
    (∃ c rest, isNameChar c = true ∧ raw = '$' :: c :: rest) ∨
      (∃ rest, raw = '$' :: '{' :: rest) ∨
        ∃ c rest, isNameChar c = true ∧ raw = '[' :: '[' :: c :: rest := by
  obtain ⟨c, n, rfl⟩ := List.exists_cons_of_ne_nil h.isName.1
  have hc : isNameChar c = true := h.isName.2 c List.mem_cons_self
  cases h with
  | bare => exact .inl ⟨c, n, hc, rfl⟩
  | braced => exact .inr (.inl ⟨_, rfl⟩)
  | bracedAs => exact .inr (.inl ⟨_, rfl⟩)
  | bracketed => exact .inr (.inr ⟨c, _, hc, rfl⟩)
  | bracketedAs => exact .inr (.inr ⟨c, _, hc, rfl⟩)

namespace Reference

/-- A reference has one of the shapes. -/
def Shaped (r : Reference) : Prop :=
  Shape r.name.toList (r.format.map String.toList) r.rawChars

theorem shaped_bare_iff {n : String} : (bare n).Shaped ↔ IsName n.toList :=
  ⟨Shape.isName, Shape.bare⟩

theorem shaped_braced_iff {n : String} {f : Option String} :
    (braced n f).Shaped ↔ IsName n.toList ∧ ∀ x ∈ f, IsFormat '}' x.toList := by
  constructor
  · intro h
    refine ⟨Shape.isName h, ?_⟩
    rintro x rfl
    exact (Shape.isFormat h).1 rfl
  · rintro ⟨hn, hf⟩
    cases f with
    | none => simpa [Shaped, name, format, rawChars, suffix] using Shape.braced hn
    | some x => simpa [Shaped, name, format, rawChars, suffix] using Shape.bracedAs hn (hf x rfl)

theorem shaped_bracketed_iff {n : String} {f : Option String} :
    (bracketed n f).Shaped ↔ IsName n.toList ∧ ∀ x ∈ f, IsFormat ']' x.toList := by
  constructor
  · intro h
    refine ⟨Shape.isName h, ?_⟩
    rintro x rfl
    exact (Shape.isFormat h).2 rfl
  · rintro ⟨hn, hf⟩
    cases f with
    | none => simpa [Shaped, name, format, rawChars, suffix] using Shape.bracketed hn
    | some x =>
        simpa [Shaped, name, format, rawChars, suffix] using Shape.bracketedAs hn (hf x rfl)

/-- A reference without marks around its name ends where the name does. -/
def EndsBefore (r : Reference) (rest : List Char) : Prop :=
  ∀ n, r = .bare n → StopsBefore isNameChar rest

end Reference

/-! ## Names and formats -/

/-- The longest run of characters of a kind at the front of a text, if there is one. -/
def leadingRun (p : Char → Bool) (cs : List Char) : Option (String × List Char) :=
  if cs.takeWhile p = [] then none else some (String.ofList (cs.takeWhile p), cs.dropWhile p)

theorem leadingRun_iff {p : Char → Bool} {cs rest : List Char} {body : String} :
    leadingRun p cs = some (body, rest) ↔
      (body.toList ≠ [] ∧ ∀ c ∈ body.toList, p c = true) ∧ cs = body.toList ++ rest ∧
        StopsBefore p rest := by
  have hspan : cs.takeWhile p = body.toList ∧ cs.dropWhile p = rest ↔ _ :=
    takeWhile_dropWhile_iff
  unfold leadingRun
  constructor
  · intro h
    split at h
    · contradiction
    · rename_i hne
      obtain ⟨rfl, rfl⟩ : String.ofList (cs.takeWhile p) = body ∧ cs.dropWhile p = rest := by
        simpa using h
      rw [String.toList_ofList] at hspan ⊢
      have hbody := hspan.1 ⟨rfl, rfl⟩
      exact ⟨⟨hne, hbody.1⟩, hbody.2⟩
  · rintro ⟨⟨hne, hbody⟩, hcs, hrest⟩
    obtain ⟨htake, hdrop⟩ := hspan.2 ⟨hbody, hcs, hrest⟩
    rw [if_neg (by rwa [htake]), htake, hdrop, String.ofList_toList]

theorem run_readName (cs : List Char) : Reader.run readName cs = leadingRun isNameChar cs := by
  cases cs with
  | nil => rfl
  | cons c cs =>
      by_cases hc : isNameChar c = true <;>
        simp [Reader.run, readName, leadingRun, hc, Rest.dropWhile, Rest.tail]

theorem run_readFormat (stop : Char) (cs : List Char) :
    Reader.run (readFormat stop) cs = leadingRun (· != stop) cs := by
  cases cs with
  | nil => rfl
  | cons c cs =>
      by_cases hc : c = stop <;>
        simp [Reader.run, readFormat, leadingRun, hc, Rest.dropWhile, Rest.tail]

/-- A name is read to its last character. -/
theorem run_readName_iff {cs rest : List Char} {name : String} :
    Reader.run readName cs = some (name, rest) ↔
      IsName name.toList ∧ cs = name.toList ++ rest ∧ StopsBefore isNameChar rest := by
  rw [run_readName, leadingRun_iff]
  rfl

/-- A format is read up to the character that ends it. -/
theorem run_readFormat_iff {stop : Char} {cs rest : List Char} {format : String} :
    Reader.run (readFormat stop) cs = some (format, rest) ↔
      IsFormat stop format.toList ∧ cs = format.toList ++ rest ∧
        StopsBefore (· != stop) rest := by
  have hmem : (∀ c ∈ format.toList, (c != stop) = true) ↔ stop ∉ format.toList := by
    constructor
    · intro h hstop
      simpa using h stop hstop
    · intro h c hc
      have hne : c ≠ stop := fun heq => h (heq ▸ hc)
      simpa using hne
  rw [run_readFormat, leadingRun_iff, hmem]
  rfl

/-! ## References -/

/-- The closing mark of a reference. -/
def closing (stop : Char) (double : Bool) : List Char :=
  if double then [stop, stop] else [stop]

theorem readClose_iff {stop : Char} {double : Bool} {cs rest : List Char} :
    (readClose stop double cs).map Rest.chars = some rest ↔ cs = closing stop double ++ rest := by
  cases cs with
  | nil => cases double <;> simp [readClose, closing]
  | cons c cs =>
      by_cases hc : c = stop
      · subst hc
        cases double with
        | false => simp [readClose, closing, Rest.tail]
        | true =>
            cases cs with
            | nil => simp [readClose, closing]
            | cons d cs =>
                by_cases hd : d = c <;>
                  simp [readClose, closing, hd, Rest.tail, Rest.behind]
      · cases double <;> simp [readClose, closing, hc]

theorem stopsBefore_closing {p : Char → Bool} {stop : Char} (hstop : p stop = false)
    (double : Bool) (rest : List Char) : StopsBefore p (closing stop double ++ rest) := by
  cases double <;> simpa [closing] using hstop

theorem run_readEnding_colon (stop : Char) (double : Bool) (cs : List Char) :
    Reader.run (readEnding stop double) (':' :: cs) =
      (Reader.run (readFormat stop) cs).bind fun p =>
        ((readClose stop double p.2).map Rest.chars).map fun rest => (some p.1, rest) := by
  simp only [Reader.run, readEnding]
  cases readFormat stop cs with
  | none => rfl
  | some p => cases h : readClose stop double p.2.chars <;> simp [h, Rest.behind, Rest.trans]

theorem run_readEnding_of_ne_colon {cs : List Char} (hcs : ∀ tail, cs ≠ ':' :: tail)
    (stop : Char) (double : Bool) :
    Reader.run (readEnding stop double) cs =
      ((readClose stop double cs).map Rest.chars).map fun rest => (none, rest) := by
  unfold Reader.run readEnding
  split
  · rename_i tail
    exact absurd rfl (hcs tail)
  · cases readClose stop double cs <;> rfl

/-- A colon is followed by a format and the closing mark. -/
theorem run_readEnding_colon_iff {stop : Char} (hstop : stop ≠ ':') {double : Bool}
    {tail rest : List Char} {format : Option String} :
    Reader.run (readEnding stop double) (':' :: tail) = some (format, rest) ↔
      (∀ f ∈ format, IsFormat stop f.toList) ∧
        ':' :: tail = Reference.suffix format ++ closing stop double ++ rest := by
  rw [run_readEnding_colon, Option.bind_eq_some_iff]
  constructor
  · rintro ⟨⟨f, r⟩, hformat, h⟩
    obtain ⟨hf, rfl, -⟩ := run_readFormat_iff.1 hformat
    obtain ⟨rest', hclose, hpair⟩ := Option.map_eq_some_iff.1 h
    obtain ⟨rfl, rfl⟩ : some f = format ∧ rest' = rest := by simpa using hpair
    have hr : r = closing stop double ++ rest' := readClose_iff.1 hclose
    simpa [Reference.suffix, hr] using hf
  · rintro ⟨hformat, hcs⟩
    cases format with
    | none =>
        cases double <;> simp [Reference.suffix, closing] at hcs <;> exact absurd hcs.1.symm hstop
    | some f =>
        have htail : tail = f.toList ++ (closing stop double ++ rest) := by
          simpa [Reference.suffix] using hcs
        refine ⟨(f, closing stop double ++ rest), ?_, ?_⟩
        · exact run_readFormat_iff.2
            ⟨hformat f rfl, htail, stopsBefore_closing (by simp) double rest⟩
        · exact Option.map_eq_some_iff.2 ⟨rest, readClose_iff.2 rfl, rfl⟩

/-- Without a colon only the closing mark follows. -/
theorem run_readEnding_of_ne_colon_iff {stop : Char} {double : Bool} {cs rest : List Char}
    (hcs : ∀ tail, cs ≠ ':' :: tail) {format : Option String} :
    Reader.run (readEnding stop double) cs = some (format, rest) ↔
      (∀ f ∈ format, IsFormat stop f.toList) ∧
        cs = Reference.suffix format ++ closing stop double ++ rest := by
  rw [run_readEnding_of_ne_colon hcs]
  constructor
  · intro h
    obtain ⟨rest', hclose, hpair⟩ := Option.map_eq_some_iff.1 h
    obtain ⟨rfl, rfl⟩ : none = format ∧ rest' = rest := by simpa using hpair
    rw [readClose_iff.1 hclose]
    simp [Reference.suffix]
  · rintro ⟨-, hform⟩
    cases format with
    | none =>
        have hclose : cs = closing stop double ++ rest := by
          simpa [Reference.suffix] using hform
        exact Option.map_eq_some_iff.2 ⟨rest, readClose_iff.2 hclose, rfl⟩
    | some f => exact absurd hform (by simpa [Reference.suffix] using hcs _)

/-- Behind a name stand a format, or none, and the closing mark. -/
theorem run_readEnding_iff {stop : Char} (hstop : stop ≠ ':') {double : Bool}
    {cs rest : List Char} {format : Option String} :
    Reader.run (readEnding stop double) cs = some (format, rest) ↔
      (∀ f ∈ format, IsFormat stop f.toList) ∧
        cs = Reference.suffix format ++ closing stop double ++ rest := by
  by_cases hcolon : ∃ tail, cs = ':' :: tail
  · obtain ⟨tail, rfl⟩ := hcolon
    exact run_readEnding_colon_iff hstop
  · exact run_readEnding_of_ne_colon_iff fun tail h => hcolon ⟨tail, h⟩

/-- Behind the opening mark stand a name, perhaps a format, and the closing mark. -/
theorem run_readEnclosed_iff {stop : Char} (hstop : stop ≠ ':') (hname : isNameChar stop = false)
    {double : Bool} {cs rest : List Char} {name : String} {format : Option String} :
    Reader.run (readEnclosed stop double) cs = some ((name, format), rest) ↔
      IsName name.toList ∧ (∀ f ∈ format, IsFormat stop f.toList) ∧
        cs = name.toList ++ Reference.suffix format ++ closing stop double ++ rest := by
  have hrun : Reader.run (readEnclosed stop double) cs =
      (Reader.run readName cs).bind fun p =>
        (Reader.run (readEnding stop double) p.2).map fun q => ((p.1, q.1), q.2) := by
    simp only [Reader.run, readEnclosed]
    cases readName cs with
    | none => rfl
    | some p =>
        cases h : readEnding stop double p.2.chars <;> simp [h, Rest.trans]
  rw [hrun, Option.bind_eq_some_iff]
  constructor
  · rintro ⟨⟨n, r⟩, hread, h⟩
    obtain ⟨⟨f, r'⟩, hending, hpair⟩ := Option.map_eq_some_iff.1 h
    obtain ⟨⟨rfl, rfl⟩, rfl⟩ : (n = name ∧ f = format) ∧ r' = rest := by simpa using hpair
    obtain ⟨hn, rfl, -⟩ := run_readName_iff.1 hread
    obtain ⟨hf, hr⟩ : _ ∧ r = _ := (run_readEnding_iff hstop).1 hending
    exact ⟨hn, hf, by simp [hr]⟩
  · rintro ⟨hn, hf, rfl⟩
    have hend : StopsBefore isNameChar
        (Reference.suffix format ++ closing stop double ++ rest) := by
      cases format with
      | none => exact stopsBefore_closing hname double rest
      | some f => simp [Reference.suffix]; decide
    refine ⟨(name, Reference.suffix format ++ closing stop double ++ rest), ?_, ?_⟩
    · exact run_readName_iff.2 ⟨hn, by simp, hend⟩
    · exact Option.map_eq_some_iff.2
        ⟨(format, rest), (run_readEnding_iff hstop).2 ⟨hf, rfl⟩, rfl⟩

theorem map_readEnclosed_iff {stop : Char} (hstop : stop ≠ ':') (hname : isNameChar stop = false)
    {double : Bool} {wrap : String → Option String → Reference} {cs rest : List Char}
    {ref : Reference} :
    ((Reader.run (readEnclosed stop double) cs).map fun p => (wrap p.1.1 p.1.2, p.2)) =
        some (ref, rest) ↔
      ∃ n f, wrap n f = ref ∧ IsName n.toList ∧ (∀ x ∈ f, IsFormat stop x.toList) ∧
        cs = n.toList ++ Reference.suffix f ++ closing stop double ++ rest := by
  rw [Option.map_eq_some_iff]
  constructor
  · rintro ⟨⟨⟨n, f⟩, r⟩, hread, hpair⟩
    obtain ⟨hwrap, rfl⟩ : wrap n f = ref ∧ r = rest := by simpa using hpair
    exact ⟨n, f, hwrap, (run_readEnclosed_iff hstop hname).1 hread⟩
  · rintro ⟨n, f, rfl, hread⟩
    exact ⟨((n, f), rest), (run_readEnclosed_iff hstop hname).2 hread, rfl⟩

theorem run_readReference_braced (cs : List Char) :
    Reader.run readReference ('$' :: '{' :: cs) =
      (Reader.run (readEnclosed '}' false) cs).map fun p => (.braced p.1.1 p.1.2, p.2) := by
  simp only [Reader.run, readReference]
  cases readEnclosed '}' false cs <;> rfl

theorem run_readReference_bracketed (cs : List Char) :
    Reader.run readReference ('[' :: '[' :: cs) =
      (Reader.run (readEnclosed ']' true) cs).map fun p => (.bracketed p.1.1 p.1.2, p.2) := by
  simp only [Reader.run, readReference]
  cases readEnclosed ']' true cs <;> rfl

theorem run_readReference_bare {cs : List Char} (hcs : ∀ tail, cs ≠ '{' :: tail) :
    Reader.run readReference ('$' :: cs) =
      (Reader.run readName cs).map fun p => (.bare p.1, p.2) := by
  unfold Reader.run
  rw [readReference.eq_2 cs hcs]
  cases readName cs <;> rfl

/-- Where no opening mark stands, no reference is read. -/
theorem run_readReference_of_not_opening {cs : List Char} (hdollar : ∀ tail, cs ≠ '$' :: tail)
    (hbracket : ∀ tail, cs ≠ '[' :: '[' :: tail) : Reader.run readReference cs = none := by
  rw [Reader.run_eq_none_iff, readReference.eq_4 cs (fun _ => hdollar _) hdollar hbracket]

/-- What is read as a reference has one of the shapes. -/
theorem shaped_of_run_readReference {cs rest : List Char} {ref : Reference}
    (h : Reader.run readReference cs = some (ref, rest)) :
    ref.Shaped ∧ cs = ref.rawChars ++ rest ∧ ref.EndsBefore rest := by
  by_cases hbraced : ∃ tail, cs = '$' :: '{' :: tail
  · obtain ⟨tail, rfl⟩ := hbraced
    rw [run_readReference_braced, map_readEnclosed_iff (by decide) (by decide)] at h
    obtain ⟨n, f, rfl, hn, hf, rfl⟩ := h
    refine ⟨Reference.shaped_braced_iff.2 ⟨hn, hf⟩, ?_, by simp [Reference.EndsBefore]⟩
    simp [Reference.rawChars, closing]
  by_cases hbracketed : ∃ tail, cs = '[' :: '[' :: tail
  · obtain ⟨tail, rfl⟩ := hbracketed
    rw [run_readReference_bracketed, map_readEnclosed_iff (by decide) (by decide)] at h
    obtain ⟨n, f, rfl, hn, hf, rfl⟩ := h
    refine ⟨Reference.shaped_bracketed_iff.2 ⟨hn, hf⟩, ?_, by simp [Reference.EndsBefore]⟩
    simp [Reference.rawChars, closing]
  by_cases hbare : ∃ tail, cs = '$' :: tail
  · obtain ⟨tail, rfl⟩ := hbare
    have htail : ∀ more, tail ≠ '{' :: more := fun more h => hbraced ⟨more, by rw [h]⟩
    rw [run_readReference_bare htail] at h
    obtain ⟨⟨n, r⟩, hread, hpair⟩ := Option.map_eq_some_iff.1 h
    obtain ⟨rfl, rfl⟩ : Reference.bare n = ref ∧ r = rest := by simpa using hpair
    obtain ⟨hn, rfl, hstop⟩ := run_readName_iff.1 hread
    refine ⟨Reference.shaped_bare_iff.2 hn, rfl, ?_⟩
    rintro m -
    exact hstop
  · rw [run_readReference_of_not_opening (fun t ht => hbare ⟨t, ht⟩)
      fun t ht => hbracketed ⟨t, ht⟩] at h
    contradiction

/-- A reference of one of the shapes is read. -/
theorem run_readReference_of_shaped {ref : Reference} (hshaped : ref.Shaped) {rest : List Char}
    (hends : ref.EndsBefore rest) :
    Reader.run readReference (ref.rawChars ++ rest) = some (ref, rest) := by
  cases ref with
  | bare n =>
      have hn : IsName n.toList := Reference.shaped_bare_iff.1 hshaped
      have hcs : ∀ tail, n.toList ++ rest ≠ '{' :: tail := by
        intro tail h
        obtain ⟨c, cs, hc⟩ := List.exists_cons_of_ne_nil hn.1
        have hname := hn.2 c (by simp [hc])
        rw [hc] at h
        rw [(List.cons.inj h).1] at hname
        exact absurd hname (by decide)
      show Reader.run readReference ('$' :: (n.toList ++ rest)) = _
      rw [run_readReference_bare hcs, run_readName_iff.2 ⟨hn, rfl, hends n rfl⟩]
      rfl
  | braced n f =>
      obtain ⟨hn, hf⟩ := Reference.shaped_braced_iff.1 hshaped
      have hcs : (Reference.braced n f).rawChars ++ rest =
          '$' :: '{' :: (n.toList ++ Reference.suffix f ++ closing '}' false ++ rest) := by
        simp [Reference.rawChars, closing]
      rw [hcs, run_readReference_braced, map_readEnclosed_iff (by decide) (by decide)]
      exact ⟨n, f, rfl, hn, hf, rfl⟩
  | bracketed n f =>
      obtain ⟨hn, hf⟩ := Reference.shaped_bracketed_iff.1 hshaped
      have hcs : (Reference.bracketed n f).rawChars ++ rest =
          '[' :: '[' :: (n.toList ++ Reference.suffix f ++ closing ']' true ++ rest) := by
        simp [Reference.rawChars, closing]
      rw [hcs, run_readReference_bracketed, map_readEnclosed_iff (by decide) (by decide)]
      exact ⟨n, f, rfl, hn, hf, rfl⟩

/-- A reference is read exactly where one of the shapes begins; a bare name is read to its last
character. -/
theorem run_readReference_iff {cs rest : List Char} {ref : Reference} :
    Reader.run readReference cs = some (ref, rest) ↔
      ref.Shaped ∧ cs = ref.rawChars ++ rest ∧ ref.EndsBefore rest := by
  constructor
  · exact shaped_of_run_readReference
  · rintro ⟨hshaped, rfl, hends⟩
    exact run_readReference_of_shaped hshaped hends

/-! ## Where no shape begins -/

/-- None of the shapes begins at the front of a text. -/
def ShapeFree (cs : List Char) : Prop :=
  ∀ n f raw, Shape n f raw → ¬ raw <+: cs

/-- A text of one of the shapes is the text of a reference. -/
theorem Shape.exists_reference {n raw : List Char} {f : Option (List Char)} (h : Shape n f raw) :
    ∃ ref : Reference, ref.Shaped ∧ ref.rawChars = raw := by
  cases h with
  | bare hn =>
      exact ⟨.bare (String.ofList n), Reference.shaped_bare_iff.2 (by simpa using hn),
        by simp [Reference.rawChars]⟩
  | braced hn =>
      exact ⟨.braced (String.ofList n) none, Reference.shaped_braced_iff.2 (by simpa using hn),
        by simp [Reference.rawChars, Reference.suffix]⟩
  | @bracedAs f hn hf =>
      exact ⟨.braced (String.ofList n) (some (String.ofList f)),
        Reference.shaped_braced_iff.2 (by simpa using ⟨hn, hf⟩),
        by simp [Reference.rawChars, Reference.suffix]⟩
  | bracketed hn =>
      exact ⟨.bracketed (String.ofList n) none,
        Reference.shaped_bracketed_iff.2 (by simpa using hn),
        by simp [Reference.rawChars, Reference.suffix]⟩
  | @bracketedAs f hn hf =>
      exact ⟨.bracketed (String.ofList n) (some (String.ofList f)),
        Reference.shaped_bracketed_iff.2 (by simpa using ⟨hn, hf⟩),
        by simp [Reference.rawChars, Reference.suffix]⟩

/-- Where a shape begins, some reference is read: the shape itself, or a longer name. -/
theorem exists_run_readReference {ref : Reference} (hshaped : ref.Shaped) (cs : List Char) :
    ∃ ref' rest, Reader.run readReference (ref.rawChars ++ cs) = some (ref', rest) := by
  cases ref with
  | bare n =>
      have hn : IsName n.toList := Reference.shaped_bare_iff.1 hshaped
      obtain ⟨hbody, -, hstop⟩ := takeWhile_dropWhile_iff.1
        (⟨rfl, rfl⟩ : (n.toList ++ cs).takeWhile isNameChar = _ ∧ _ = _)
      have hne : (n.toList ++ cs).takeWhile isNameChar ≠ [] := by
        rw [List.takeWhile_append_of_pos hn.2]
        exact List.append_ne_nil_of_left_ne_nil hn.1 _
      refine ⟨.bare (String.ofList ((n.toList ++ cs).takeWhile isNameChar)),
        (n.toList ++ cs).dropWhile isNameChar, run_readReference_iff.2 ⟨?_, ?_, ?_⟩⟩
      · rw [Reference.shaped_bare_iff, String.toList_ofList]
        exact ⟨hne, hbody⟩
      · simp [Reference.rawChars]
      · rintro m -
        exact hstop
  | braced n f =>
      exact ⟨_, cs, run_readReference_of_shaped hshaped (by simp [Reference.EndsBefore])⟩
  | bracketed n f =>
      exact ⟨_, cs, run_readReference_of_shaped hshaped (by simp [Reference.EndsBefore])⟩

/-- No reference is read exactly where no shape begins. -/
theorem readReference_eq_none_iff {cs : List Char} :
    readReference cs = none ↔ ShapeFree cs := by
  rw [← Reader.run_eq_none_iff]
  constructor
  · intro hnone n f raw hshape hprefix
    obtain ⟨ref, hshaped, rfl⟩ := hshape.exists_reference
    obtain ⟨t, rfl⟩ := hprefix
    obtain ⟨ref', rest, hread⟩ := exists_run_readReference hshaped t
    rw [hnone] at hread
    contradiction
  · intro hfree
    cases hread : Reader.run readReference cs with
    | none => rfl
    | some p =>
        obtain ⟨hshaped, hcs, -⟩ := shaped_of_run_readReference hread
        exact absurd ⟨p.2, hcs.symm⟩ (hfree _ _ _ hshaped)

end Template
end PanelQuery
