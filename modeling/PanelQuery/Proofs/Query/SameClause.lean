import PanelQuery.Proofs.Correspondence
import PanelQuery.Proofs.Query.Criteria

/-!
# Queries - conditions with the same where clause

A where clause is read back from the left.  The text of a criterion ends at its second quote, so it
can be told from whatever follows; what follows a chain of criteria begins neither like a criterion
nor like a connective, so the chain ends where it should; and so does a group, whatever its values
look like.  Two lists of groups with the same clause are therefore the same but for the connectives
that join nothing.

Main results:

- `writeChain_append_eq_iff`: chains of texts that can be told from what follows are read back.
- `whereClause?_eq_iff_sameGroups`: under filters two lists of groups have the same clause exactly
  if they have the same groups.
- `whereClause?_eq_of_closing`: a parenthesis before a value can pass for the end of a group.
-/

namespace PanelQuery

open Template

/-- A filter has no quotes, and no closing parenthesis before its value. -/
@[mk_iff]
structure Template.AdhocFilter.IsPlain (f : AdhocFilter) : Prop where
  key_quote : '"' ∉ f.key.toList
  key_closing : ')' ∉ f.key.toList
  operator_quote : '"' ∉ f.operator.toList
  operator_closing : ')' ∉ f.operator.toList
  value_quote : '"' ∉ f.value.toList

instance (f : AdhocFilter) : Decidable f.IsPlain :=
  decidable_of_iff _ (AdhocFilter.isPlain_iff f).symm

namespace Target

/-! ## The same conditions -/

/-- Two chains are the same: their items are, one by one, and so are the connectives of all items
but the first. -/
@[mk_iff]
structure SameChain {α : Type} (connective : α → Connective) (same : α → α → Prop)
    (xs ys : List α) : Prop where
  items : List.Forall₂ same xs ys
  connectives : xs.tail.map connective = ys.tail.map connective

/-- Two conditions make the same comparison, whatever joins them to others. -/
structure Condition.SameComparison (c c' : Condition) : Prop where
  left : c.left = c'.left
  comparison : c.comparison = c'.comparison
  right : c.right = c'.right

/-- Two groups have the same conditions, and they are joined in the same way. -/
def Group.SameConditions (g g' : Group) : Prop :=
  SameChain Condition.connective Condition.SameComparison g.conditions g'.conditions

/-- Two lists have the same groups, and they are joined in the same way. -/
def SameGroups (groups groups' : List Group) : Prop :=
  SameChain Group.operator Group.SameConditions groups groups'

/-- A condition has no quotes, and no closing parenthesis before its value. -/
@[mk_iff]
structure Condition.IsPlain (c : Condition) : Prop where
  left_quote : '"' ∉ c.left.toList
  left_closing : ')' ∉ c.left.toList
  right_quote : '"' ∉ c.right.toList

instance (c : Condition) : Decidable c.IsPlain :=
  decidable_of_iff _ (Condition.isPlain_iff c).symm

section

variable {α β : Type} {connective : α → Connective} {same same' : α → α → Prop} {xs ys : List α}

theorem SameChain.iff_of_mem (h : ∀ a ∈ xs, ∀ b ∈ ys, (same a b ↔ same' a b)) :
    SameChain connective same xs ys ↔ SameChain connective same' xs ys := by
  rw [sameChain_iff, sameChain_iff, forall₂_iff_of_mem h]

theorem sameChain_map_iff {f : β → α} {us vs : List β} :
    SameChain connective same (us.map f) (vs.map f) ↔
      SameChain (connective ∘ f) (fun u v => same (f u) (f v)) us vs := by
  rw [sameChain_iff, sameChain_iff, List.forall₂_map_left_iff, List.forall₂_map_right_iff,
    ← List.map_tail, ← List.map_tail, List.map_map, List.map_map]

/-- What both chains end in does not matter. -/
theorem sameChain_append_right_iff (hrefl : ∀ a, same a a) {zs : List α} :
    SameChain connective same (xs ++ zs) (ys ++ zs) ↔ SameChain connective same xs ys := by
  constructor
  · rintro ⟨hitems, hconnectives⟩
    have hlength : xs.length = ys.length := by
      simpa using hitems.length_eq
    have htake := List.forall₂_take xs.length hitems
    rw [List.take_left, hlength, List.take_left] at htake
    refine ⟨htake, ?_⟩
    cases htake with
    | nil => rfl
    | cons _ _ => simpa using hconnectives
  · rintro ⟨hitems, hconnectives⟩
    refine ⟨List.rel_append hitems (List.forall₂_same.2 fun a _ => hrefl a), ?_⟩
    cases hitems with
    | nil => rfl
    | cons _ _ => simpa using hconnectives

end

/-! ## Chains read from the left -/

/-- Texts each of which can be told from whatever follows it. -/
def SelfDelimiting (P : String → Prop) : Prop :=
  ∀ ⦃a b x y : String⦄, P a → P b → a ++ x = b ++ y → a = b ∧ x = y

/-- A text ends a chain of texts: it begins neither like one of them nor like a connective. -/
structure EndsChain (P : String → Prop) (x : String) : Prop where
  not_text : ∀ {t}, P t → ∀ rest, x ≠ t ++ rest
  not_connective : ∀ (connective : Connective) rest,
    x ≠ " " ++ connective.write ++ " " ++ rest

/-- Two rows of links are the same chain. -/
def SameLinks (links links' : List (Connective × String)) : Prop :=
  SameChain Prod.fst (fun link link' => link.2 = link'.2) links links'

theorem Connective.write_append_inj {c c' : Connective} {x y : String}
    (h : " " ++ c.write ++ " " ++ x = " " ++ c'.write ++ " " ++ y) : c = c' ∧ x = y := by
  have hsecond := congrArg (fun s => s.toList[1]?) h
  have hsame : c = c' := by
    cases c <;> cases c' <;> simp [Connective.write] at hsecond ⊢
  subst hsame
  exact ⟨rfl, by simpa using h⟩

section

variable {P : String → Prop} {links links' : List (Connective × String)} {x y : String}

/-- Further links are read back one by one, each behind its connective, up to an end of the chain.
-/
theorem writeFurther_append_inj (hP : SelfDelimiting P) (hlinks : ∀ link ∈ links, P link.2)
    (hlinks' : ∀ link ∈ links', P link.2) (hx : EndsChain P x) (hy : EndsChain P y)
    (h : writeFurther links ++ x = writeFurther links' ++ y) : links = links' ∧ x = y := by
  induction links generalizing links' with
  | nil => cases links' with
    | nil => exact ⟨rfl, by simpa [writeFurther] using h⟩
    | cons link' links' =>
        -- One row has come to its end where the other goes on with a connective.
        rw [writeFurther, writeFurther, String.empty_append, String.append_assoc,
          String.append_assoc] at h
        exact absurd h (hx.not_connective link'.1 _)
  | cons link links ih => cases links' with
    | nil =>
        rw [writeFurther, writeFurther, String.empty_append, String.append_assoc,
          String.append_assoc] at h
        exact absurd h.symm (hy.not_connective link.1 _)
    | cons link' links' =>
        obtain ⟨connective, text⟩ := link
        obtain ⟨connective', text'⟩ := link'
        rw [List.forall_mem_cons] at hlinks hlinks'
        have hlink : " " ++ connective.write ++ " " ++ (text ++ (writeFurther links ++ x)) =
            " " ++ connective'.write ++ " " ++ (text' ++ (writeFurther links' ++ y)) := by
          simpa only [writeFurther, String.append_assoc] using h
        obtain ⟨rfl, htexts⟩ := Connective.write_append_inj hlink
        obtain ⟨rfl, hfurther⟩ := hP hlinks.1 hlinks'.1 htexts
        obtain ⟨rfl, hends⟩ := ih hlinks.2 hlinks'.2 hfurther
        exact ⟨rfl, hends⟩

theorem writeFurther_congr (htexts : List.Forall₂ (fun l l' => l.2 = l'.2) links links')
    (hconnectives : links.map Prod.fst = links'.map Prod.fst) :
    writeFurther links = writeFurther links' := by
  induction htexts with
  | nil => rfl
  | cons htext _ ih =>
      obtain ⟨hconnective, hrest⟩ := List.cons_eq_cons.1 hconnectives
      rw [writeFurther, writeFurther, hconnective, htext, ih hrest]

theorem SameLinks.writeChain_eq (h : SameLinks links links') :
    writeChain links = writeChain links' := by
  obtain ⟨htexts, hconnectives⟩ := h
  cases htexts with
  | nil => rfl
  | cons htext hrest =>
      rw [writeChain, writeChain, htext, writeFurther_congr hrest hconnectives]

/-- A chain of texts that can be told from what follows is read back, but for the connective of its
first link. -/
theorem writeChain_append_eq_iff (hP : SelfDelimiting P) (hlinks : ∀ link ∈ links, P link.2)
    (hlinks' : ∀ link ∈ links', P link.2) (hx : EndsChain P x) (hy : EndsChain P y) :
    writeChain links ++ x = writeChain links' ++ y ↔ SameLinks links links' ∧ x = y := by
  constructor
  · intro h
    cases links with
    | nil => cases links' with
      | nil => exact ⟨⟨.nil, rfl⟩, by simpa [writeChain] using h⟩
      | cons link' links' =>
          rw [writeChain, writeChain, String.empty_append, String.append_assoc] at h
          exact absurd h (hx.not_text (hlinks' link' List.mem_cons_self) _)
    | cons link links => cases links' with
      | nil =>
          rw [writeChain, writeChain, String.empty_append, String.append_assoc] at h
          exact absurd h.symm (hy.not_text (hlinks link List.mem_cons_self) _)
      | cons link' links' =>
          rw [List.forall_mem_cons] at hlinks hlinks'
          rw [writeChain, writeChain, String.append_assoc, String.append_assoc] at h
          obtain ⟨htext, hfurther⟩ := hP hlinks.1 hlinks'.1 h
          obtain ⟨rfl, hends⟩ := writeFurther_append_inj hP hlinks.2 hlinks'.2 hx hy hfurther
          exact ⟨⟨.cons htext (List.forall₂_same.2 fun _ _ => rfl), rfl⟩, hends⟩
  · rintro ⟨hsame, rfl⟩
    rw [hsame.writeChain_eq]

/-- A text is a chain of texts in parentheses. -/
def InParentheses (P : String → Prop) (t : String) : Prop :=
  ∃ links, (∀ link ∈ links, P link.2) ∧ t = "( " ++ writeChain links ++ " )"

/-- Chains in parentheses can be told from what follows, if their texts can and the closing
parenthesis ends the chain. -/
theorem SelfDelimiting.inParentheses (hP : SelfDelimiting P)
    (hends : ∀ rest, EndsChain P (" )" ++ rest)) : SelfDelimiting (InParentheses P) := by
  rintro _ _ x y ⟨links, hlinks, rfl⟩ ⟨links', hlinks', rfl⟩ h
  rw [String.append_assoc, String.append_assoc, String.append_assoc, String.append_assoc,
    String.append_right_inj] at h
  obtain ⟨hsame, hrest⟩ :=
    (writeChain_append_eq_iff hP hlinks hlinks' (hends x) (hends y)).1 h
  rw [hsame.writeChain_eq]
  exact ⟨rfl, (String.append_right_inj _).1 hrest⟩

/-- Nothing more ends a chain of texts in parentheses. -/
theorem endsChain_empty : EndsChain (InParentheses P) "" where
  not_text := by
    rintro _ ⟨links, -, rfl⟩ rest h
    simp [String.append_assoc] at h
  not_connective := by
    intro connective rest h
    simp [String.append_assoc] at h

end

/-! ## Criteria -/

/-- A text is that of a criterion without quotes of its own, and with no closing parenthesis before
its value. -/
def IsPlainCriterion (t : String) : Prop :=
  ∃ comparison value : String, '"' ∉ comparison.toList ∧ ')' ∉ comparison.toList ∧
    '"' ∉ value.toList ∧ t = comparison ++ "\"" ++ value ++ "\""

/-- What stands before a mark is read up to it. -/
theorem append_cons_inj_of_not_mem {α : Type} {mark : α} {as bs xs ys : List α} (ha : mark ∉ as)
    (hb : mark ∉ bs) (h : as ++ mark :: xs = bs ++ mark :: ys) : as = bs ∧ xs = ys := by
  induction as generalizing bs with
  | nil => cases bs with
    | nil => exact ⟨rfl, (List.cons.inj h).2⟩
    | cons b bs =>
        obtain rfl : mark = b := (List.cons.inj h).1
        exact absurd List.mem_cons_self hb
  | cons a as ih => cases bs with
    | nil =>
        obtain rfl : a = mark := (List.cons.inj h).1
        exact absurd List.mem_cons_self ha
    | cons b bs =>
        obtain ⟨rfl, hrest⟩ := List.cons.inj h
        rw [List.mem_cons, not_or] at ha hb
        obtain ⟨rfl, hends⟩ := ih ha.2 hb.2 hrest
        exact ⟨rfl, hends⟩

theorem quote_append_inj {a b x y : String} (ha : '"' ∉ a.toList) (hb : '"' ∉ b.toList)
    (h : a ++ ("\"" ++ x) = b ++ ("\"" ++ y)) : a = b ∧ x = y := by
  have hlist : a.toList ++ '"' :: x.toList = b.toList ++ '"' :: y.toList := by
    simpa using congrArg String.toList h
  obtain ⟨hbefore, hafter⟩ := append_cons_inj_of_not_mem ha hb hlist
  exact ⟨String.toList_inj.1 hbefore, String.toList_inj.1 hafter⟩

/-- A criterion ends at its second quote. -/
theorem selfDelimiting_isPlainCriterion : SelfDelimiting IsPlainCriterion := by
  rintro _ _ x y ⟨comparison, value, hcomparison, -, hvalue, rfl⟩
    ⟨comparison', value', hcomparison', -, hvalue', rfl⟩ h
  simp only [String.append_assoc] at h
  obtain ⟨rfl, hafter⟩ := quote_append_inj hcomparison hcomparison' h
  obtain ⟨rfl, hrest⟩ := quote_append_inj hvalue hvalue' hafter
  exact ⟨rfl, hrest⟩

/-- No criterion begins with a closing parenthesis, and no connective does. -/
theorem endsChain_closing (rest : String) : EndsChain IsPlainCriterion (" )" ++ rest) where
  not_text := by
    rintro _ ⟨comparison, value, -, hclosing, -, rfl⟩ more h
    have hlist : ' ' :: ')' :: rest.toList =
        comparison.toList ++ '"' :: (value.toList ++ '"' :: more.toList) := by
      simpa using congrArg String.toList h
    -- The closing parenthesis is the second character: the quote comes too early for it, or it
    -- stands before the quote.
    match hchars : comparison.toList with
    | [] => simp [hchars] at hlist
    | [_] => simp [hchars] at hlist
    | _ :: c :: _ =>
        obtain rfl : c = ')' := by
          simp only [hchars, List.cons_append, List.cons.injEq] at hlist
          exact hlist.2.1.symm
        simp [hchars] at hclosing
  not_connective := by
    intro connective more h
    have hsecond := congrArg (fun s => s.toList[1]?) h
    cases connective <;> simp [Connective.write] at hsecond

/-- The text of a condition before the quotes. -/
def Condition.beforeValue (c : Condition) : String :=
  c.left ++ " " ++ c.comparison.write ++ " "

theorem Condition.write_eq (c : Condition) :
    c.write = c.beforeValue ++ ("\"" ++ (c.right ++ "\"")) := by
  have hquote : " \"" = " " ++ "\"" := by decide
  simp only [write, beforeValue, hquote, String.append_assoc]

theorem Condition.beforeValue_inj {c c' : Condition} (h : c.beforeValue = c'.beforeValue) :
    c.left = c'.left ∧ c.comparison = c'.comparison := by
  have hlength : ∀ k : Comparison, (" " ++ k.write ++ " ").toList.length = 3 := by
    intro k
    cases k <;> decide
  have hlist : c.left.toList ++ (" " ++ c.comparison.write ++ " ").toList =
      c'.left.toList ++ (" " ++ c'.comparison.write ++ " ").toList := by
    simpa [beforeValue] using congrArg String.toList h
  obtain ⟨hleft, hsign⟩ := List.append_inj' hlist (by rw [hlength, hlength])
  rw [String.toList_inj, String.append_left_inj, String.append_right_inj] at hsign
  refine ⟨String.toList_inj.1 hleft, Option.some.inj ?_⟩
  rw [← Comparison.ofText?_write, hsign, Comparison.ofText?_write]

namespace Condition.IsPlain

variable {c : Condition} (h : c.IsPlain)

include h

theorem not_mem_beforeValue : '"' ∉ c.beforeValue.toList ∧ ')' ∉ c.beforeValue.toList := by
  have hsign : '"' ∉ c.comparison.write.toList ∧ ')' ∉ c.comparison.write.toList := by
    cases c.comparison <;> decide
  simp [beforeValue, h.left_quote, h.left_closing, hsign]

theorem isPlainCriterion : IsPlainCriterion c.write := by
  obtain ⟨hquote, hclosing⟩ := h.not_mem_beforeValue
  refine ⟨c.beforeValue, c.right, hquote, hclosing, h.right_quote, ?_⟩
  rw [write_eq, String.append_assoc, String.append_assoc]

end Condition.IsPlain

theorem isPlainCriterion_filter {f : AdhocFilter} (h : f.IsPlain) :
    IsPlainCriterion f.write := by
  refine ⟨f.key ++ f.operator, f.value, ?_, ?_, h.value_quote, rfl⟩
  · simp [h.key_quote, h.operator_quote]
  · simp [h.key_closing, h.operator_closing]

/-- A condition is read back from its text. -/
theorem Condition.write_eq_iff {c c' : Condition} (h : c.IsPlain) (h' : c'.IsPlain) :
    c.write = c'.write ↔ c.SameComparison c' := by
  constructor
  · intro hwrite
    rw [write_eq, write_eq] at hwrite
    obtain ⟨hbefore, hvalue⟩ :=
      quote_append_inj h.not_mem_beforeValue.1 h'.not_mem_beforeValue.1 hwrite
    obtain ⟨hleft, hcomparison⟩ := beforeValue_inj hbefore
    exact ⟨hleft, hcomparison, (String.append_left_inj _).1 hvalue⟩
  · rintro ⟨hleft, hcomparison, hright⟩
    rw [write, write, hleft, hcomparison, hright]

/-! ## Groups -/

section

variable {filters : List AdhocFilter}

theorem Group.isPlainCriterion_of_mem {g : Group} (hfilters : ∀ f ∈ filters, f.IsPlain)
    (hg : ∀ c ∈ g.conditions, c.IsPlain) :
    ∀ link ∈ (g.criteria filters).map Criterion.link, IsPlainCriterion link.2 := by
  intro link hlink
  obtain ⟨criterion, hcriterion, rfl⟩ := List.mem_map.1 hlink
  rcases List.mem_append.1 hcriterion with h | h
  · obtain ⟨c, hc, rfl⟩ := List.mem_map.1 h
    exact (hg c hc).isPlainCriterion
  · obtain ⟨f, hf, rfl⟩ := List.mem_map.1 h
    exact isPlainCriterion_filter (hfilters f hf)

/-- Under filters two groups have the same text exactly if they have the same conditions. -/
theorem Group.write_eq_iff {g g' : Group} (hfilters : ∀ f ∈ filters, f.IsPlain)
    (hg : ∀ c ∈ g.conditions, c.IsPlain) (hg' : ∀ c ∈ g'.conditions, c.IsPlain) :
    g.write (AdhocFilter.writeAll filters) = g'.write (AdhocFilter.writeAll filters) ↔
      g.SameConditions g' := by
  have hends : EndsChain IsPlainCriterion " )" := by
    simpa using endsChain_closing ""
  have hchain := writeChain_append_eq_iff selfDelimiting_isPlainCriterion
    (g.isPlainCriterion_of_mem hfilters hg) (g'.isPlainCriterion_of_mem hfilters hg') hends hends
  rw [write_eq_writeChain, write_eq_writeChain, String.append_assoc, String.append_assoc,
    String.append_right_inj, hchain, and_iff_left rfl, SameLinks, sameChain_map_iff, criteria,
    criteria, sameChain_append_right_iff, sameChain_map_iff]
  · apply SameChain.iff_of_mem
    intro c hc c' hc'
    exact Condition.write_eq_iff (hg c hc) (hg' c' hc')
  · exact fun criterion => rfl

theorem Group.inParentheses_of_mem {groups : List Group} (hfilters : ∀ f ∈ filters, f.IsPlain)
    (hgroups : ∀ g ∈ groups, ∀ c ∈ g.conditions, c.IsPlain) :
    ∀ link ∈ groups.map (Group.link (AdhocFilter.writeAll filters)),
      InParentheses IsPlainCriterion link.2 := by
  intro link hlink
  obtain ⟨g, hg, rfl⟩ := List.mem_map.1 hlink
  exact ⟨_, g.isPlainCriterion_of_mem hfilters (hgroups g hg), g.write_eq_writeChain filters⟩

/-- Under filters two lists of groups have the same where clause exactly if they have the same
groups: the same conditions in the same order, and the same connectives wherever one joins
something.  Neither quotes nor closing parentheses may stand before a value, and no quotes in it. -/
theorem whereClause?_eq_iff_sameGroups {groups groups' : List Group}
    (hfilters : ∀ f ∈ filters, f.IsPlain) (hgroups : ∀ g ∈ groups, ∀ c ∈ g.conditions, c.IsPlain)
    (hgroups' : ∀ g ∈ groups', ∀ c ∈ g.conditions, c.IsPlain) :
    whereClause? (AdhocFilter.writeAll filters) groups =
      whereClause? (AdhocFilter.writeAll filters) groups' ↔ SameGroups groups groups' := by
  cases groups with
  | nil => cases groups' with
    | nil => exact iff_of_true rfl ⟨.nil, rfl⟩
    -- Without groups there is no clause at all.
    | cons g' groups' => exact iff_of_false nofun nofun
  | cons g groups => cases groups' with
    | nil => exact iff_of_false nofun nofun
    | cons g' groups' =>
        have hchain := writeChain_append_eq_iff
          (selfDelimiting_isPlainCriterion.inParentheses endsChain_closing)
          (Group.inParentheses_of_mem hfilters hgroups)
          (Group.inParentheses_of_mem hfilters hgroups') endsChain_empty endsChain_empty
        rw [String.append_empty, String.append_empty, and_iff_left rfl, SameLinks,
          sameChain_map_iff] at hchain
        rw [whereClause?_cons, whereClause?_cons, Option.some_inj, hchain]
        apply SameChain.iff_of_mem
        intro g hg g' hg'
        exact Group.write_eq_iff hfilters (hgroups g hg) (hgroups' g' hg')

/-- Groups of which one is empty and the other has a value that looks like the end of a group. -/
def misleadingGroups (operator : Connective) : List Group :=
  [⟨.and, []⟩, ⟨operator, [⟨.or, "intf and node", .equal, "x ) or ( y"⟩]⟩]

theorem whereClause?_misleadingGroups_ne :
    (∀ f ∈ [⟨"site", "=", "a )"⟩], AdhocFilter.IsPlain f) ∧
      (∀ g ∈ misleadingGroups .and, ∀ c ∈ g.conditions, c.IsPlain) ∧
      (∀ g ∈ misleadingGroups .or, ∀ c ∈ g.conditions, c.IsPlain) ∧
      whereClause? (AdhocFilter.writeAll [⟨"site", "=", "a )"⟩]) (misleadingGroups .and) ≠
        whereClause? (AdhocFilter.writeAll [⟨"site", "=", "a )"⟩]) (misleadingGroups .or) := by
  have hfilters : ∀ f ∈ [⟨"site", "=", "a )"⟩], AdhocFilter.IsPlain f := by decide
  have hand : ∀ g ∈ misleadingGroups .and, ∀ c ∈ g.conditions, c.IsPlain := by decide
  have hor : ∀ g ∈ misleadingGroups .or, ∀ c ∈ g.conditions, c.IsPlain := by decide
  refine ⟨hfilters, hand, hor, ?_⟩
  intro hclause
  have hsame := (whereClause?_eq_iff_sameGroups hfilters hand hor).1 hclause
  exact absurd hsame.connectives (by decide)

end

/-- A closing parenthesis before a value can pass for the end of an empty group. -/
theorem whereClause?_eq_of_closing (c : Condition) (operator operator' : Connective) :
    whereClause? "" [⟨operator, []⟩, ⟨operator', [c]⟩] =
      whereClause? "" [⟨operator,
        [{ c with left := " ) " ++ operator'.write ++ " ( " ++ c.left }]⟩] := by
  have hclosing : " ) " = " )" ++ " " := by decide
  have hopening : " ( " = " " ++ "( " := by decide
  simp only [whereClause?, writeFurtherGroups, Group.write, narrow, writeConditions,
    writeFurtherConditions, Condition.write, String.append_empty, String.append_assoc, if_pos,
    hclosing, hopening]

end Target
end PanelQuery
