import GoStructs.Proofs.Syntax.Keeps
import GoStructs.Proofs.Syntax.Pieces
import GoStructs.Syntax.SourceFile
/-! # Changed texts show a fault

Text that is set aside becomes an error in the tree, and a token that is put in becomes a missing
node.  Both are flagged, so are all constructs above them, and so the search for the first fault
finds one.  Hence a tree without a fault is the tree of the text as it is.

## Main statements

* `keeping_changes`: a pattern keeps each change, be it still to be read or in a tree.
* `Repair.showsFault_mend`: a mended text shows a fault.
* `trees_of_firstFault_eq_none`: a tree without a fault is read from the tokens of the text. -/

namespace GoStructs.Syntax

namespace SyntaxTree

/-- The tree is shown and flagged, and a fault is found in it. -/
def ShowsFault (t : SyntaxTree) : Prop :=
  t.kind.isShown ∧ t.isFlagged ∧ t.firstFault?.isSome

theorem isSome_firstFaultAmong {ts : List SyntaxTree} (h : ∃ t ∈ ts, t.ShowsFault) :
    (firstFaultAmong? ts).isSome := by
  induction ts with
  | nil => simp at h
  | cons u us ih =>
    unfold firstFaultAmong?
    obtain ⟨t, ht, hfault⟩ := h
    rcases List.mem_cons.mp ht with rfl | ht
    · obtain ⟨hshown, -, hfirst⟩ := hfault
      obtain ⟨f, hf⟩ := Option.isSome_iff_exists.mp hfirst
      have hshown' : t.info.kind.isShown := hshown
      simp [hshown', hf]
    · -- the fault is behind the first tree, which may show another one
      have hus := ih ⟨t, ht, hfault⟩
      split
      · split
        · rfl
        · exact hus
      · exact hus

/-- A construct shows the faults of its parts. -/
theorem showsFault_ofSubtrees {kind : Kind} {ts : List SyntaxTree} (hshown : kind.isShown)
    (h : ∃ t ∈ ts, t.ShowsFault) : (ofSubtrees kind ts).ShowsFault := by
  have hsome := isSome_firstFaultAmong h
  have hflag : ts.any isFlagged := by
    obtain ⟨t, ht, -, hflag, -⟩ := h
    exact List.any_eq_true.mpr ⟨t, ht, hflag⟩
  refine ⟨hshown, ?_, ?_⟩
  · simp [ofSubtrees, isFlagged, info, hflag]
  · unfold ofSubtrees firstFault?
    split
    · rfl
    · simpa [hflag] using hsome

theorem showsFault_error (ts : List SyntaxTree) : (ofSubtrees .error ts).ShowsFault :=
  ⟨rfl, rfl, rfl⟩

theorem showsFault_missing {tok : Token} {kind : Kind} (hshown : kind.isShown) :
    (tok.leaf kind true).ShowsFault := by
  refine ⟨hshown, rfl, ?_⟩
  simp [Token.leaf, firstFault?]

theorem ShowsFault.withLabel {t : SyntaxTree} (h : t.ShowsFault) (l : Label) :
    (t.withLabel l).ShowsFault := by
  unfold SyntaxTree.withLabel
  split
  · exact h
  · obtain ⟨i, ts⟩ := t
    obtain ⟨hshown, hflag, hfirst⟩ := h
    refine ⟨hshown, hflag, ?_⟩
    simp only [info, subtrees, isFlagged, firstFault?] at *
    split at hfirst <;> simp_all

end SyntaxTree

/-- The item is no token of the text, and shows where no construct has a place for it. -/
def Item.isChange : Item → Bool
  | .token _ => false
  | .aside _ => true
  | .supplied t => t.looseKind.isShown

theorem Item.showsFault_looseTree {i : Item} (h : i.isChange) : i.looseTree.ShowsFault := by
  cases i with
  | token t => cases h
  | aside ts => exact SyntaxTree.showsFault_error _
  | supplied t => exact SyntaxTree.showsFault_missing h

/-- A change of the text matters until it shows as a fault. -/
theorem keeping_changes : Keeping (fun i => i.isChange) SyntaxTree.ShowsFault where
  aside _ _ := SyntaxTree.showsFault_error _
  placed _ h := by cases h
  taken _ _ h := by cases h
  supplied hmakes _ _ := by
    simp only [Terminal.makesLeaf, Bool.and_eq_true] at hmakes
    exact SyntaxTree.showsFault_missing hmakes.1.1.1
  ending _ h := by cases h
  construct _ _ _ ht hfault := SyntaxTree.showsFault_ofSubtrees rfl ⟨_, ht, hfault⟩
  withLabel l hfault := hfault.withLabel l

/-- A changed text that can be read as a file shows a fault. -/
theorem Outline.showsFault {items : List Item} {ts : List SyntaxTree}
    (h : (Outline.ofItems items).trees = some ts) (hchange : ∃ i ∈ items, i.isChange) :
    ∃ t ∈ ts, t.ShowsFault := by
  obtain ⟨r, hr, rfl, hrest⟩ := Outline.reads_of_trees h
  rcases hr.keeps keeping_changes Grammar.isProper_table Grammar.isProper_file
    (Or.inl hchange) with
    ⟨i, hi, -⟩ | ⟨t, ht, hfault⟩
  · simp [hrest] at hi
  · exact ⟨t, List.mem_reverse.mpr ht, hfault⟩

/-! ## Mended texts -/

namespace Repair

/-- The edit makes a change that shows. -/
def Edit.shows : Edit → Bool
  | setAside _ _ => true
  | putIn _ token => token.looseKind.isShown

theorem isChange_apply {e : Edit} (h : e.shows) (items : List Item) :
    ∃ i ∈ e.apply items, i.isChange := by
  cases e with
  | setAside first last =>
    exact ⟨.aside (((items.take last).drop first).filterMap Item.token?), by simp [Edit.apply], rfl⟩
  | putIn index token => exact ⟨.supplied token, by simp [Edit.apply], h⟩

theorem shows_of_mem_waysOn {items : List Item} {stuck : Nat} {o : Offer}
    (h : o ∈ waysOn items stuck) : o.2.shows := by
  simp only [waysOn, List.mem_append, Option.mem_toList, List.mem_filterMap] at h
  rcases h with (h | ⟨n, -, h⟩) | h
  · unfold dropOffer? at h
    split at h
    · cases h
    · obtain ⟨_, -, rfl⟩ := Option.map_eq_some_iff.mp h
      rfl
  · simp only [skipOffer?, Option.ite_none_left_eq_some] at h
    obtain ⟨_, -, rfl⟩ := Option.map_eq_some_iff.mp h.2
    rfl
  · -- each token that may be put in would be shown
    obtain ⟨⟨kind, text⟩, hmem, rfl⟩ := List.mem_map.mp h
    have hshown : ∀ s ∈ suppliable, ∀ p : Position,
        (⟨s.1, s.2, p, p⟩ : Token).looseKind.isShown := by
      simp only [suppliable, List.forall_mem_cons]
      simp [Token.looseKind, Kind.isShown]
    exact hshown _ hmem _

theorem mem_of_cheapest {offers : List Offer} {o : Offer} (h : cheapest offers = some o) :
    o ∈ offers := by
  have hmem := mem_of_foldl_eq_some (fun _ => rfl) (fun b y => by simp only; split <;> simp) h
  exact hmem.resolve_left (by simp)

theorem showsFault_map_looseTree {items : List Item} (h : ∃ i ∈ items, i.isChange) :
    ∃ t ∈ items.map Item.looseTree, t.ShowsFault := by
  obtain ⟨i, hi, hchange⟩ := h
  exact ⟨i.looseTree, List.mem_map_of_mem hi, Item.showsFault_looseTree hchange⟩

/-- A mended text shows a fault. -/
theorem showsFault_mend (items : List Item) (stuck : Nat) :
    ∃ t ∈ mend items stuck, t.ShowsFault := by
  unfold mend
  split
  · -- whether the edited text can be read or not, the edit shows
    next e he =>
    have hshows := shows_of_mem_waysOn (List.mem_filter.mp (mem_of_cheapest he)).1
    cases h : (Outline.ofItems (e.apply items)).trees with
    | some ts => exact Outline.showsFault h (isChange_apply hshows items)
    | none => exact showsFault_map_looseTree (isChange_apply hshows items)
  · exact showsFault_map_looseTree
      ⟨.aside ((items.drop stuck).filterMap Item.token?), by simp, rfl⟩

theorem shows_of_mem_rivals {items : List Item} {g : Gap} {nodes : Nat} {o : Offer}
    (h : o ∈ rivals items g nodes) : o.2.shows := by
  simp only [rivals, List.mem_filter, List.mem_append, Option.mem_toList] at h
  rcases h.1 with h | h
  · have hpart := List.mem_of_find?_eq_some h
    simp only [partOffers, List.mem_filterMap, Option.ite_none_right_eq_some] at hpart
    obtain ⟨_, -, -, ho⟩ := hpart
    cases ho
    rfl
  · simp only [tokenOffer?, Option.bind_eq_some_iff, Option.ite_none_right_eq_some] at h
    obtain ⟨_, -, -, ho⟩ := h
    cases ho
    rfl

theorem showsFault_rivalTrees {items : List Item} {gapsLeft limit : Nat} {e : Edit}
    {ts : List SyntaxTree} (he : e.shows) (h : rivalTrees? items gapsLeft limit e = some ts) :
    ∃ t ∈ ts, t.ShowsFault := by
  unfold rivalTrees? at h
  simp only at h
  split at h
  · next us hus =>
    obtain ⟨-, hts⟩ := Option.ite_none_right_eq_some.mp h
    cases hts
    exact Outline.showsFault hus (isChange_apply he items)
  · obtain ⟨-, hts⟩ := Option.ite_none_right_eq_some.mp h
    cases hts
    exact showsFault_map_looseTree (isChange_apply he items)

theorem showsFault_insteadOf {items : List Item} {ts us : List SyntaxTree} {g : Gap}
    {later : List Gap} (h : insteadOf? items ts g later = some us) :
    ∃ t ∈ us, t.ShowsFault := by
  unfold insteadOf? at h
  simp only at h
  split at h
  · next vs hvs =>
    cases h
    obtain ⟨o, hmem, ho⟩ := List.exists_of_findSome?_eq_some hvs
    exact showsFault_rivalTrees (shows_of_mem_rivals hmem) ho
  · obtain ⟨-, hus⟩ := Option.ite_none_right_eq_some.mp h
    cases hus
    exact showsFault_mend items _

theorem showsFault_replaceGap {items : List Item} {ts us : List SyntaxTree} {gs : List Gap}
    (h : replaceGap? items ts gs = some us) : ∃ t ∈ us, t.ShowsFault := by
  induction gs with
  | nil => cases h
  | cons g later ih =>
    rcases Option.or_eq_some_iff.mp h with h | ⟨-, h⟩
    · exact showsFault_insteadOf h
    · exact ih h

end Repair

/-! ## Trees without a fault -/

/-- The root of a file finds the faults that its trees show. -/
theorem isSome_firstFault_root {ts : List SyntaxTree} (stop : Position)
    (h : ∃ t ∈ ts, t.ShowsFault) : (SyntaxTree.root ts stop).firstFault?.isSome := by
  have hsome := SyntaxTree.isSome_firstFaultAmong h
  have hflag : ts.any SyntaxTree.isFlagged := by
    obtain ⟨t, ht, -, hflag, -⟩ := h
    exact List.any_eq_true.mpr ⟨t, ht, hflag⟩
  unfold SyntaxTree.root SyntaxTree.firstFault?
  split
  · rfl
  · simpa [hflag] using hsome

/-- If the tree of a file shows no fault, it is read from the tokens of the text. -/
theorem trees_of_firstFault_eq_none {items : List Item} {stop : Position}
    (h : (SyntaxTree.root (treesOf items) stop).firstFault? = none) :
    (Outline.ofItems items).trees = some (treesOf items) := by
  -- every way to settle or to mend the trees would show a fault
  have hno : ¬ ∃ t ∈ treesOf items, t.ShowsFault := by
    intro hfault
    have := isSome_firstFault_root stop hfault
    simp [h] at this
  unfold treesOf at hno ⊢
  simp only at hno ⊢
  split at hno
  · next ts hts =>
    unfold Repair.settleGaps at hno ⊢
    cases hgap : Repair.replaceGap? items ts (Repair.gapsInOrder ts) with
    | none => simp [hts]
    | some us =>
      rw [hgap] at hno
      exact absurd (Repair.showsFault_replaceGap hgap) hno
  · exact absurd (Repair.showsFault_mend items _) hno

end GoStructs.Syntax
