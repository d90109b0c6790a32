import PanelQuery.Proofs.Template.Shape

/-!
# Templates - the segmentation of a text

What it means for segments to be the segmentation of a text, without regard to how they are found,
and that every text has exactly one segmentation, the one that `segments` returns.

Main results:

- `isSegmentation_iff_eq_segments`: the segmentation of a text is `segments` of it, and no other.
-/

namespace PanelQuery
namespace Template

open Text

/-! ## The specification -/

/-- The characters that segments were read from. -/
def sourceChars (segs : List Segment) : List Char :=
  segs.flatMap fun s => s.source.toList

@[simp]
theorem sourceChars_nil : sourceChars [] = [] :=
  rfl

@[simp]
theorem sourceChars_literal (t : String) (segs : List Segment) :
    sourceChars (.literal t :: segs) = t.toList ++ sourceChars segs :=
  rfl

@[simp]
theorem sourceChars_reference (r : Reference) (segs : List Segment) :
    sourceChars (.reference r :: segs) = r.rawChars ++ sourceChars segs := by
  simp [sourceChars, Segment.source, Reference.raw]

/-- Segments split a text into references and the literal runs between them. -/
structure IsSegmentation (text : String) (segs : List Segment) : Prop where
  /-- Nothing of the text is lost. -/
  covers : String.join (segs.map Segment.source) = text
  /-- No literal run is empty. -/
  literal_ne_empty : ∀ t, .literal t ∈ segs → t ≠ ""
  /-- No two literal runs stand side by side. -/
  not_adjacent : ∀ before t u after, segs ≠ before ++ .literal t :: .literal u :: after
  /-- Every reference has one of the five shapes. -/
  shaped : ∀ r, .reference r ∈ segs → r.Shaped
  /-- Behind a bare name the text does not go on with another name character. -/
  bare_maximal : ∀ before n after, segs = before ++ .reference (.bare n) :: after →
    StopsBefore isNameChar (sourceChars after)
  /-- At no place inside a literal run does a shape begin in what remains of the text. -/
  literal_free : ∀ before t after, segs = before ++ .literal t :: after →
    ∀ a b, t.toList = a ++ b → b ≠ [] → ShapeFree (b ++ sourceChars after)

/-! ## One segment at a time -/

/-- No shape begins inside a run of characters that stands before a text. -/
def FreeBefore (run cs : List Char) : Prop :=
  ∀ a b, run = a ++ b → b ≠ [] → ShapeFree (b ++ cs)

theorem freeBefore_nil (cs : List Char) : FreeBefore [] cs := by
  intro a b h hb
  exact absurd (List.append_eq_nil_iff.1 h.symm).2 hb

/-- A run may be longer by one character where no shape begins at that character. -/
theorem FreeBefore.snoc {run cs : List Char} {c : Char} (hrun : FreeBefore run (c :: cs))
    (hc : ShapeFree (c :: cs)) : FreeBefore (run ++ [c]) cs := by
  intro a b h hb
  obtain ⟨b', d, rfl⟩ : ∃ b' d, b = b' ++ [d] :=
    ⟨b.dropLast, b.getLast hb, (List.dropLast_concat_getLast hb).symm⟩
  rw [← List.append_assoc] at h
  obtain ⟨hrun', hd⟩ := List.append_inj' h rfl
  obtain rfl : c = d := by simpa using hd
  rw [List.append_assoc]
  by_cases hb' : b' = []
  · subst hb'
    exact hc
  · exact hrun a b' hrun' hb'

/-- A segment may stand before others. -/
def Segment.Fits : Segment → List Segment → Prop
  | .literal t, after =>
    t ≠ "" ∧ (∀ u more, after ≠ .literal u :: more) ∧ FreeBefore t.toList (sourceChars after)
  | .reference r, after => r.Shaped ∧ r.EndsBefore (sourceChars after)

/-- Every segment may stand before those that follow it. -/
def AllFit : List Segment → Prop
  | [] => True
  | s :: segs => s.Fits segs ∧ AllFit segs

theorem allFit_iff {segs : List Segment} :
    AllFit segs ↔ ∀ before s after, segs = before ++ s :: after → s.Fits after := by
  induction segs with
  | nil => simp [AllFit]
  | cons s segs ih =>
      rw [AllFit, ih]
      constructor
      · rintro ⟨hs, hsegs⟩ before x after h
        cases before with
        | nil =>
            obtain ⟨rfl, rfl⟩ := List.cons.inj h
            exact hs
        | cons _ before => exact hsegs before x after (List.cons.inj h).2
      · intro h
        refine ⟨h [] s segs rfl, ?_⟩
        rintro before x after rfl
        exact h (s :: before) x after rfl

/-- The specification, one segment at a time. -/
theorem isSegmentation_iff_allFit {text : String} {segs : List Segment} :
    IsSegmentation text segs ↔ sourceChars segs = text.toList ∧ AllFit segs := by
  have hcovers : String.join (segs.map Segment.source) = text ↔
      sourceChars segs = text.toList := by
    rw [← String.toList_inj, String.toList_join, List.flatMap_map]
    rfl
  constructor
  · intro h
    refine ⟨hcovers.1 h.covers, allFit_iff.2 ?_⟩
    rintro before s after rfl
    cases s with
    | literal t =>
        refine ⟨h.literal_ne_empty t (by simp), ?_, h.literal_free before t after rfl⟩
        rintro u more rfl
        exact h.not_adjacent before t u more rfl
    | reference r =>
        refine ⟨h.shaped r (by simp), ?_⟩
        rintro n rfl
        exact h.bare_maximal before n after rfl
  · rintro ⟨hsource, hfit⟩
    rw [allFit_iff] at hfit
    refine ⟨hcovers.2 hsource, ?_, ?_, ?_, ?_, ?_⟩
    · intro t ht
      obtain ⟨before, after, h⟩ := List.append_of_mem ht
      exact (hfit _ _ _ h).1
    · intro before t u after h
      exact (hfit _ _ _ h).2.1 u after rfl
    · intro r hr
      obtain ⟨before, after, h⟩ := List.append_of_mem hr
      exact (hfit _ _ _ h).1
    · intro before n after h
      exact (hfit _ _ _ h).2 n rfl
    · intro before t after h
      exact (hfit _ _ _ h).2.2

/-! ## The segments that are found -/

theorem flush_nil : flush [] = [] :=
  rfl

theorem flush_of_ne_nil {pending : List Char} (h : pending ≠ []) :
    flush pending = [.literal (String.ofList pending.reverse)] := by
  simp [flush, h]

@[simp]
theorem sourceChars_append (segs more : List Segment) :
    sourceChars (segs ++ more) = sourceChars segs ++ sourceChars more := by
  simp [sourceChars]

@[simp]
theorem sourceChars_flush (pending : List Char) :
    sourceChars (flush pending) = pending.reverse := by
  by_cases h : pending = []
  · simp [h, flush_nil]
  · simp [flush_of_ne_nil h]

/-- The literal run that was collected may stand before segments that begin with a reference, or
before none. -/
theorem allFit_flush_append {pending : List Char} {segs : List Segment} (hsegs : AllFit segs)
    (hfirst : ∀ u more, segs ≠ .literal u :: more)
    (hfree : FreeBefore pending.reverse (sourceChars segs)) : AllFit (flush pending ++ segs) := by
  by_cases h : pending = []
  · simpa [h, flush_nil] using hsegs
  · rw [flush_of_ne_nil h]
    refine ⟨⟨?_, hfirst, ?_⟩, hsegs⟩
    · simpa [← String.toList_inj] using h
    · simpa using hfree

/-- Where a reference is read, it ends the literal run before it. -/
theorem segmentsAfter_of_run {pending cs rest : List Char} {ref : Reference}
    (h : Reader.run readReference cs = some (ref, rest)) :
    segmentsAfter pending cs = flush pending ++ .reference ref :: segmentsAfter [] rest := by
  obtain ⟨⟨_, r⟩, hread, hpair⟩ := Option.map_eq_some_iff.1 h
  obtain ⟨rfl, rfl⟩ : _ = ref ∧ r.chars = rest := by simpa using hpair
  cases cs with
  | nil => exact absurd r.shorter (Nat.not_lt_zero _)
  | cons c cs =>
      rw [segmentsAfter]
      simp [hread]

/-- Characters at which no shape begins join the literal run. -/
theorem segmentsAfter_append_of_free {run cs : List Char} (h : FreeBefore run cs)
    (pending : List Char) :
    segmentsAfter pending (run ++ cs) = segmentsAfter (run.reverse ++ pending) cs := by
  induction run generalizing pending with
  | nil => rfl
  | cons c run ih =>
      have hc : readReference (c :: (run ++ cs)) = none :=
        readReference_eq_none_iff.2 (h [] (c :: run) rfl (List.cons_ne_nil c run))
      have hrun : FreeBefore run cs := by
        rintro a b rfl hb
        exact h (c :: a) b rfl hb
      rw [List.cons_append, segments_cons hc, ih hrun]
      simp

/-- What is found covers the text, and every segment may stand where it does.  The invariant of the
scan is that no shape begins inside the literal run that is being collected. -/
theorem segmentsAfter_spec (pending cs : List Char) (hfree : FreeBefore pending.reverse cs) :
    sourceChars (segmentsAfter pending cs) = pending.reverse ++ cs ∧
      AllFit (segmentsAfter pending cs) := by
  fun_induction segmentsAfter pending cs with
  | case1 pending =>
      have hfit : AllFit (flush pending ++ []) :=
        allFit_flush_append trivial (by simp) hfree
      rw [List.append_nil] at hfit
      exact ⟨by simp, hfit⟩
  | case2 pending c cs ref r hread ih =>
      obtain ⟨hshaped, hcs, hends⟩ : ref.Shaped ∧ c :: cs = _ ∧ ref.EndsBefore r.chars :=
        shaped_of_run_readReference (by simp [Reader.run, hread])
      obtain ⟨hsource, hfit⟩ := ih (freeBefore_nil _)
      have hsource' : sourceChars (.reference ref :: segmentsAfter [] r.chars) = c :: cs := by
        rw [sourceChars_reference, hsource]
        exact hcs.symm
      refine ⟨by simp [hsource'], allFit_flush_append ⟨⟨hshaped, ?_⟩, hfit⟩ (by simp) ?_⟩
      · simpa [hsource] using hends
      · rwa [hsource']
  | case3 pending c cs hread ih =>
      have hfree' : FreeBefore (c :: pending).reverse cs := by
        rw [List.reverse_cons]
        exact hfree.snoc (readReference_eq_none_iff.1 hread)
      obtain ⟨hsource, hfit⟩ := ih hfree'
      exact ⟨by simpa using hsource, hfit⟩

/-- Segments that may stand where they do are found again in the text that they cover. -/
theorem segmentsAfter_sourceChars {segs : List Segment} (h : AllFit segs) :
    segmentsAfter [] (sourceChars segs) = segs := by
  induction segs with
  | nil => exact segments_nil []
  | cons s segs ih =>
      obtain ⟨hs, hsegs⟩ := h
      cases s with
      | reference r =>
          rw [sourceChars_reference, segmentsAfter_of_run (run_readReference_of_shaped hs.1 hs.2),
            ih hsegs]
          rfl
      | literal t =>
          obtain ⟨hne, hfirst, hfree⟩ := hs
          have hflush : flush t.toList.reverse = [.literal t] := by
            rw [flush_of_ne_nil (by simpa using hne)]
            simp
          rw [sourceChars_literal, segmentsAfter_append_of_free hfree, List.append_nil]
          cases segs with
          | nil => rw [sourceChars_nil, segments_nil, hflush]
          | cons s' segs =>
              cases s' with
              | literal u => exact absurd rfl (hfirst u segs)
              | reference r =>
                  have hread := run_readReference_of_shaped hsegs.1.1 hsegs.1.2
                  have ih' := ih hsegs
                  rw [sourceChars_reference, segmentsAfter_of_run hread, flush_nil,
                    List.nil_append] at ih'
                  rw [sourceChars_reference, segmentsAfter_of_run hread, hflush, ih']
                  rfl

/-- Segments that cover a text and may stand where they do are the ones that are found. -/
theorem segments_eq_of_allFit {text : String} {segs : List Segment}
    (hsource : sourceChars segs = text.toList) (hfit : AllFit segs) : segments text = segs := by
  rw [segments, ← hsource, segmentsAfter_sourceChars hfit]

/-- The segments that are found cover the text and may stand where they do. -/
theorem allFit_segments (text : String) :
    sourceChars (segments text) = text.toList ∧ AllFit (segments text) := by
  simpa [segments] using segmentsAfter_spec [] text.toList (freeBefore_nil _)

/-- A text has one segmentation, and `segments` returns it. -/
theorem isSegmentation_iff_eq_segments (text : String) (segs : List Segment) :
    IsSegmentation text segs ↔ segs = segments text := by
  rw [isSegmentation_iff_allFit]
  constructor
  · rintro ⟨hsource, hfit⟩
    exact (segments_eq_of_allFit hsource hfit).symm
  · rintro rfl
    exact allFit_segments text

/-- An opening mark that leads nowhere is literal, also where the next one overlaps it. -/
example : segments "[[[x]]" = [.literal "[", .reference (.bracketed "x" none)] := by
  decide +kernel

end Template
end PanelQuery
