import PanelQuery.Proofs.Template.Segmentation
import PanelQuery.Template.Interpolation

/-!
# Templates - templates put together

A template that is put together from parts is read as its parts are, one by one, if no reference can
arise across a seam.  That is so behind text in which no reference can begin, and behind a text that
leaves no opening mark unanswered, before text that cannot continue a reference.

Main results:

- `segments_append`: the segments of two parts are those of each, joined at the seam.
- `resolve_append` and `resolve_plain_append`: parts are resolved one by one.
- `referenceClosed_of_plain`: a text without opening characters leaves no opening mark unanswered.
-/

namespace PanelQuery
namespace Template

open Text

/-! ## Seams -/

/-- A run of literal characters leaves no opening mark unanswered. -/
def NoOpening (run : List Char) : Prop :=
  ¬ ['$', '{'] <:+: run ∧ ¬ ['[', '['] <:+: run

instance (run : List Char) : Decidable (NoOpening run) :=
  inferInstanceAs (Decidable (_ ∧ _))

/-- A segment leaves no opening mark unanswered. -/
def Segment.Closed : Segment → Prop
  | .literal t => NoOpening t.toList
  | .reference _ => True

instance : DecidablePred Segment.Closed
  | .literal t => inferInstanceAs (Decidable (NoOpening t.toList))
  | .reference _ => inferInstanceAs (Decidable True)

/-- A text leaves no opening mark unanswered in any of its literal runs. -/
def ReferenceClosed (text : String) : Prop :=
  ∀ s ∈ segments text, s.Closed

instance (text : String) : Decidable (ReferenceClosed text) :=
  inferInstanceAs (Decidable (∀ s ∈ segments text, s.Closed))

/-- The characters that can continue a reference which the text before them began. -/
def continuesReference (c : Char) : Bool :=
  isNameChar c || c == '{' || c == '['

/-- A text cannot continue a reference that the text before it began. -/
def Separated (text : String) : Prop :=
  StopsBefore continuesReference text.toList

instance (text : String) : Decidable (Separated text) :=
  inferInstanceAs (Decidable (StopsBefore continuesReference text.toList))

/-- The characters that can begin a reference. -/
def opensReference (c : Char) : Bool :=
  c == '$' || c == '['

/-- A text in which no reference can begin. -/
def Plain (text : String) : Prop :=
  ∀ c ∈ text.toList, opensReference c = false

instance (text : String) : Decidable (Plain text) :=
  List.decidableBAll _ text.toList

theorem separated_empty : Separated "" := by
  decide

/-- A text begins as its first nonempty part does. -/
theorem Separated.append {a b : String} (ha : Separated a) (hb : a = "" → Separated b) :
    Separated (a ++ b) := by
  unfold Separated
  rw [String.toList_append]
  exact StopsBefore.append ha fun h => hb (String.toList_eq_nil_iff.1 h)

theorem stopsBefore_isNameChar_of_separated {cs : List Char}
    (h : StopsBefore continuesReference cs) : StopsBefore isNameChar cs := by
  intro c hc
  have hcont := h c hc
  simp only [continuesReference, Bool.or_eq_false_iff] at hcont
  exact hcont.1.1

/-- A text that may stand between any two parts. -/
def Glue (text : String) : Prop :=
  text ≠ "" ∧ Plain text ∧ Separated text

instance (text : String) : Decidable (Glue text) :=
  inferInstanceAs (Decidable (_ ∧ _))

theorem Glue.separated_append {p : String} (hp : Glue p) (s : String) : Separated (p ++ s) :=
  hp.2.2.append fun h => absurd h hp.1

/-- No shape begins across a seam.  Only three characters matter: the two of an opening mark and the
first of a name. -/
theorem ShapeFree.append {cs ds : List Char} (hfree : ShapeFree cs) (hne : cs ≠ [])
    (hbrace : ¬ ['$', '{'] <+: cs)
    (hbracket : ∀ rest, cs = '[' :: '[' :: rest → rest.head? = some '[')
    (hds : StopsBefore continuesReference ds) : ShapeFree (cs ++ ds) := by
  rintro n f raw hshape ⟨t, ht⟩
  obtain ⟨c, cs, rfl⟩ := List.exists_cons_of_ne_nil hne
  have hhead : ∀ d more, ds = d :: more → continuesReference d = false := by
    rintro d more rfl
    simpa using hds
  rcases hshape.opening with ⟨x, rest, hx, rfl⟩ | ⟨rest, rfl⟩ | ⟨x, rest, hx, rfl⟩ <;>
    simp only [List.cons_append, List.cons.injEq] at ht <;>
    obtain ⟨rfl, ht⟩ := ht
  · cases cs with
    | nil =>
        have hcont := hhead x _ ht.symm
        simp [continuesReference, hx] at hcont
    | cons d cs =>
        obtain ⟨rfl, -⟩ := List.cons.inj ht
        exact hfree [x] none ['$', x] (.bare ⟨by simp, by simpa using hx⟩) (by simp)
  · cases cs with
    | nil => exact absurd (hhead '{' _ ht.symm) (by decide)
    | cons d cs =>
        obtain ⟨rfl, -⟩ := List.cons.inj ht
        exact hbrace (by simp)
  · cases cs with
    | nil => exact absurd (hhead '[' _ ht.symm) (by decide)
    | cons d cs =>
        obtain ⟨rfl, htail⟩ := List.cons.inj ht
        have hnext := hbracket cs rfl
        cases cs with
        | nil => simp at hnext
        | cons e cs =>
            obtain ⟨rfl, -⟩ := List.cons.inj htail
            obtain rfl : x = '[' := by simpa using hnext
            exact absurd hx (by decide)

/-- Text that cannot continue a reference frees no position of a literal run that leaves no opening
mark unanswered, whether the run stands last or before a reference. -/
theorem FreeBefore.append {run cs ds : List Char} (hfree : FreeBefore run cs)
    (hrun : NoOpening run) (hcs : cs = [] ∨ ∃ r : Reference, ∃ rest, cs = r.rawChars ++ rest)
    (hds : StopsBefore continuesReference ds) : FreeBefore run (cs ++ ds) := by
  rintro a b rfl hb
  obtain ⟨c, b, rfl⟩ := List.exists_cons_of_ne_nil hb
  rw [← List.append_assoc]
  refine (hfree a (c :: b) rfl hb).append (by simp) ?_ ?_ hds
  · intro hprefix
    cases b with
    | nil =>
        rcases hcs with rfl | ⟨r, rest, rfl⟩
        · simp at hprefix
        · cases r <;> simp [Reference.rawChars] at hprefix
    | cons d b =>
        obtain ⟨rfl, rfl⟩ : '$' = c ∧ '{' = d := by simpa using hprefix
        exact hrun.1 ⟨a, b, by simp⟩
  · intro rest h
    cases b with
    | nil =>
        rcases hcs with rfl | ⟨r, more, rfl⟩
        · simp at h
        · cases r with
          | bare n => simp [Reference.rawChars] at h
          | braced n f => simp [Reference.rawChars] at h
          | bracketed n f =>
              obtain ⟨-, rfl⟩ : c = '[' ∧ _ = rest := by simpa [Reference.rawChars] using h
              rfl
    | cons d b =>
        obtain ⟨rfl, rfl, -⟩ : c = '[' ∧ d = '[' ∧ _ := by simpa using h
        exact absurd ⟨a, b, by simp⟩ hrun.2

/-! ## Segments of parts -/

/-- The segments of two parts in a row: literal runs that meet at the seam become one. -/
def join : List Segment → List Segment → List Segment
  | [], more => more
  | [.literal t], .literal u :: more => .literal (t ++ u) :: more
  | s :: segs, more => s :: join segs more

@[simp]
theorem join_nil (more : List Segment) : join [] more = more := by
  rw [join]

@[simp]
theorem join_reference (r : Reference) (segs more : List Segment) :
    join (.reference r :: segs) more = .reference r :: join segs more := by
  rw [join]
  simp

@[simp]
theorem sourceChars_join (segs more : List Segment) :
    sourceChars (join segs more) = sourceChars segs ++ sourceChars more := by
  fun_induction join segs more with
  | case1 more => rfl
  | case2 t u more => simp
  | case3 s segs more _ ih => simpa [sourceChars] using ih

/-- A literal run stands before a text if none of its positions begins a shape there. -/
theorem FreeBefore.append_run {run more cs : List Char} (hrun : FreeBefore run (more ++ cs))
    (hmore : FreeBefore more cs) : FreeBefore (run ++ more) cs := by
  intro a b h hb
  rcases List.append_eq_append_iff.1 h with ⟨a', rfl, rfl⟩ | ⟨b', rfl, rfl⟩
  · exact hmore a' b rfl hb
  · by_cases hb' : b' = []
    · subst hb'
      exact hmore [] more rfl (by simpa using hb)
    · rw [List.append_assoc]
      exact hrun a b' rfl hb'

/-- A literal run may be joined to segments before which it is free. -/
theorem allFit_join_literal {t : String} {more : List Segment} (ht : t ≠ "")
    (hfree : FreeBefore t.toList (sourceChars more)) (hmore : AllFit more) :
    AllFit (join [.literal t] more) := by
  cases more with
  | nil => exact ⟨⟨ht, by simp, hfree⟩, trivial⟩
  | cons s more =>
      cases s with
      | literal u =>
          obtain ⟨⟨-, hfirst, hu⟩, hmore⟩ := hmore
          refine ⟨⟨by simp [ht], hfirst, ?_⟩, hmore⟩
          rw [String.toList_append]
          exact FreeBefore.append_run (by simpa using hfree) hu
      | reference r => exact ⟨⟨ht, by simp, hfree⟩, hmore⟩

/-- Segments without unanswered opening marks may be joined to those of a text that cannot continue
a reference. -/
theorem allFit_join {segs more : List Segment} (hsegs : AllFit segs)
    (hclosed : ∀ s ∈ segs, s.Closed) (hmore : AllFit more)
    (hsep : StopsBefore continuesReference (sourceChars more)) : AllFit (join segs more) := by
  induction segs with
  | nil => simpa using hmore
  | cons s segs ih =>
      obtain ⟨hs, hsegs⟩ := hsegs
      have ih' := ih hsegs fun s' hs' => hclosed s' (List.mem_cons_of_mem s hs')
      cases s with
      | reference r =>
          rw [join_reference]
          refine ⟨⟨hs.1, ?_⟩, ih'⟩
          intro n hr
          rw [sourceChars_join]
          exact (hs.2 n hr).append fun _ => stopsBefore_isNameChar_of_separated hsep
      | literal t =>
          obtain ⟨ht, hfirst, hfree⟩ := hs
          have hrun : NoOpening t.toList := hclosed (.literal t) List.mem_cons_self
          cases segs with
          | nil => exact allFit_join_literal ht (hfree.append hrun (.inl rfl) hsep) hmore
          | cons s' segs =>
              cases s' with
              | literal u => exact absurd rfl (hfirst u segs)
              | reference r =>
                  have hfree' := hfree.append hrun (.inr ⟨r, _, sourceChars_reference r segs⟩) hsep
                  rw [← sourceChars_join] at hfree'
                  rw [join_reference] at ih' hfree'
                  exact ⟨⟨ht, by simp, hfree'⟩, ih'⟩

/-- A text without unanswered opening marks is segmented on its own before text that cannot continue
a reference. -/
theorem segments_append {a b : String} (ha : ReferenceClosed a) (hb : Separated b) :
    segments (a ++ b) = join (segments a) (segments b) := by
  obtain ⟨hsourceA, hfitA⟩ := allFit_segments a
  obtain ⟨hsourceB, hfitB⟩ := allFit_segments b
  apply segments_eq_of_allFit
  · rw [sourceChars_join, hsourceA, hsourceB, String.toList_append]
  · exact allFit_join hfitA ha hfitB (by rwa [hsourceB])

/-- No shape begins at a character that opens no reference. -/
theorem shapeFree_cons_of_not_opens {c : Char} (hc : opensReference c = false) (cs : List Char) :
    ShapeFree (c :: cs) := by
  rintro n f raw hshape ⟨t, ht⟩
  rcases hshape.opening with ⟨x, rest, -, rfl⟩ | ⟨rest, rfl⟩ | ⟨x, rest, -, rfl⟩ <;>
    simp only [List.cons_append, List.cons.injEq] at ht <;>
    obtain ⟨rfl, -⟩ := ht <;>
    exact absurd hc (by decide)

theorem freeBefore_of_plain {p : String} (hp : Plain p) (cs : List Char) :
    FreeBefore p.toList cs := by
  intro a b h hb
  obtain ⟨c, b, rfl⟩ := List.exists_cons_of_ne_nil hb
  exact shapeFree_cons_of_not_opens (hp c (by simp [h])) _

/-- A text in which no reference can begin is literal before any text. -/
theorem segments_plain_append {p : String} (hp : Plain p) (hne : p ≠ "") (b : String) :
    segments (p ++ b) = join [.literal p] (segments b) := by
  obtain ⟨hsource, hfit⟩ := allFit_segments b
  apply segments_eq_of_allFit
  · rw [sourceChars_join, hsource, String.toList_append]
    simp
  · exact allFit_join_literal hne (freeBefore_of_plain hp _) hfit

theorem segments_of_plain {p : String} (hp : Plain p) (hne : p ≠ "") :
    segments p = [.literal p] := by
  simpa [join, segments, segments_nil, flush_nil] using segments_plain_append hp hne ""

/-- A text in which no reference can begin leaves no opening mark unanswered. -/
theorem referenceClosed_of_plain {p : String} (hp : Plain p) : ReferenceClosed p := by
  by_cases hne : p = ""
  · subst hne
    decide +kernel
  · intro s hs
    rw [segments_of_plain hp hne] at hs
    obtain rfl : s = .literal p := by simpa using hs
    have hchar : ∀ c more, c :: more <:+: p.toList → opensReference c = false :=
      fun c _ h => hp c (h.subset List.mem_cons_self)
    exact ⟨fun h => absurd (hchar '$' _ h) (by decide), fun h => absurd (hchar '[' _ h) (by decide)⟩

/-! ## Resolving parts -/

namespace Dashboard

variable (d : Dashboard) (scope : Scope) (rendering : Rendering)

theorem resolve_join (segs more : List Segment) :
    String.join ((join segs more).map (d.resolveSegment scope rendering)) =
      String.join (segs.map (d.resolveSegment scope rendering)) ++
        String.join (more.map (d.resolveSegment scope rendering)) := by
  fun_induction join segs more with
  | case1 more => simp
  | case2 t u more => simp [resolveSegment, String.append_assoc]
  | case3 s segs more _ ih => simp [ih, String.append_assoc]

/-- A text without unanswered opening marks is resolved on its own before text that cannot continue
a reference. -/
theorem resolve_append {a b : String} (ha : ReferenceClosed a) (hb : Separated b) :
    d.resolve scope rendering (a ++ b) =
      d.resolve scope rendering a ++ d.resolve scope rendering b := by
  rw [resolve, segments_append ha hb, resolve_join]
  rfl

/-- A text in which no reference can begin stays as it is before any text. -/
theorem resolve_plain_append {p : String} (hp : Plain p) (b : String) :
    d.resolve scope rendering (p ++ b) = p ++ d.resolve scope rendering b := by
  by_cases hne : p = ""
  · subst hne
    simp
  · rw [resolve, segments_plain_append hp hne, resolve_join]
    simp [resolveSegment, resolve]

/-- Before any text that cannot continue a reference, one text is resolved to another. -/
def ResolvesTo (s s' : String) : Prop :=
  ∀ more, Separated more →
    d.resolve scope rendering (s ++ more) = s' ++ d.resolve scope rendering more

variable {d scope rendering} {s s' u u' p : String}

theorem resolvesTo_of_plain (hp : Plain p) : d.ResolvesTo scope rendering p p :=
  fun more _ => d.resolve_plain_append scope rendering hp more

theorem resolvesTo_empty : d.ResolvesTo scope rendering "" "" :=
  resolvesTo_of_plain (by decide)

/-- Behind text in which no reference can begin, anything may stand. -/
theorem ResolvesTo.plain_append (hu : d.ResolvesTo scope rendering u u') (hp : Plain p) :
    d.ResolvesTo scope rendering (p ++ u) (p ++ u') := by
  intro more hmore
  rw [String.append_assoc, d.resolve_plain_append scope rendering hp, hu more hmore,
    String.append_assoc]

/-- Behind any other text stands one that cannot continue a reference. -/
theorem ResolvesTo.append (hs : d.ResolvesTo scope rendering s s')
    (hu : d.ResolvesTo scope rendering u u') (hsep : Separated u) :
    d.ResolvesTo scope rendering (s ++ u) (s' ++ u') := by
  intro more hmore
  rw [String.append_assoc, hs _ (hsep.append fun _ => hmore), hu more hmore, String.append_assoc]

/-- Parts with glue between them are resolved one by one. -/
theorem ResolvesTo.glue (hs : d.ResolvesTo scope rendering s s') (hp : Glue p)
    (hu : d.ResolvesTo scope rendering u u') :
    d.ResolvesTo scope rendering (s ++ (p ++ u)) (s' ++ (p ++ u')) :=
  hs.append (hu.plain_append hp.2.1) (hp.separated_append u)

/-- A list with glue between its items is resolved item by item. -/
theorem ResolvesTo.intercalate {α : Type} {f g : α → String} {items : List α} (hp : Glue p)
    (h : ∀ a ∈ items, d.ResolvesTo scope rendering (f a) (g a)) :
    d.ResolvesTo scope rendering (p.intercalate (items.map f)) (p.intercalate (items.map g)) := by
  induction items with
  | nil =>
      rw [List.map_nil, List.map_nil, String.intercalate_nil]
      exact resolvesTo_empty
  | cons a items ih =>
      have ha := h a List.mem_cons_self
      have ih' := ih fun b hb => h b (List.mem_cons_of_mem a hb)
      cases items with
      | nil => simpa using ha
      | cons b items =>
          simp only [List.map_cons, String.intercalate_cons_cons, String.append_assoc] at ih' ⊢
          exact ha.glue hp ih'

end Dashboard
end Template
end PanelQuery
