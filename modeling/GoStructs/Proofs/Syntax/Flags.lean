import GoStructs.Proofs.Syntax.Search
import GoStructs.Proofs.Syntax.Spreads
/-! # Flags

An error and a missing node are flagged, and a flag goes up to all constructs around them, so in the
tree of a text all nodes above a fault are flagged, and the search for the first fault finds what a
search of the whole tree would find.  A missing line end is flagged, too, though it is not shown.

## Main statements

* `flagsRise_parse`: in the tree of each text flags go up.
* `firstFault?_parse`: the search for the first fault of a text is a search in document order. -/

namespace GoStructs.Syntax

/-! ## Flags go up -/

namespace SyntaxTree

/-- Errors and missing nodes are flagged, and so is each construct with a flagged part, everywhere
in the tree. -/
inductive FlagsRise : SyntaxTree → Prop where
  | node {i : NodeInfo} {ts : List SyntaxTree} (hself : i.kind = .error ∨ i.missing → i.flagged)
      (hparts : ∀ t ∈ ts, t.isFlagged → i.flagged) (hts : ∀ t ∈ ts, t.FlagsRise) :
      (SyntaxTree.node i ts).FlagsRise

theorem flagsRise_ofSubtrees (kind : Kind) {ts : List SyntaxTree} (h : ∀ t ∈ ts, t.FlagsRise) :
    (ofSubtrees kind ts).FlagsRise := by
  refine .node ?_ ?_ h
  · intro hself
    simpa using Or.inl hself
  · intro t ht hflag
    have hany : ts.any isFlagged := List.any_eq_true.mpr ⟨t, ht, hflag⟩
    simp [hany]

theorem FlagsRise.withLabel {t : SyntaxTree} (h : t.FlagsRise) (l : Label) :
    (t.withLabel l).FlagsRise := by
  unfold SyntaxTree.withLabel
  split
  · exact h
  · cases h with
    | node hself hparts hts => exact .node hself hparts hts

theorem spreads_flagsRise : Spreads FlagsRise where
  leaf t _ missing hkind := by
    refine .node ?_ (by simp) (by simp)
    intro hself
    exact hself.resolve_left hkind
  gap p := .node (fun _ => rfl) (by simp) (by simp)
  construct kind _ h := flagsRise_ofSubtrees kind h
  withLabel l h := h.withLabel l

variable {t u : SyntaxTree}

theorem FlagsRise.of_mem_children (h : t.FlagsRise) (hu : u ∈ t.children) : u.FlagsRise := by
  cases h with
  | node hself hparts hts => exact hts u (List.mem_filter.mp hu).1

/-- A fault is flagged, and so is what has a flagged part that is shown. -/
theorem FlagsRise.isFlagged (h : t.FlagsRise)
    (hflag : t.isFault ∨ ∃ c ∈ t.children, c.isFlagged) : t.isFlagged := by
  cases h with
  | node hself hparts hts =>
    rcases hflag with hfault | ⟨c, hc, hflag⟩
    · apply hself
      simpa [isFault, isError, isMissing, kind, info] using hfault
    · exact hparts c (List.mem_filter.mp hc).1 hflag

/-- Above a fault that is shown everything is flagged. -/
theorem FlagsRise.isFlagged_of_mem_preorder (h : t.FlagsRise) (hmem : u ∈ t.preorder)
    (hu : u.isFault) : t.isFlagged := by
  induction t using induction_on_children with
  | h t ih =>
    rw [preorder_eq] at hmem
    rcases List.mem_cons.mp hmem with heq | hmem
    · exact h.isFlagged (.inl (heq ▸ hu))
    · obtain ⟨c, hc, hmem⟩ := List.mem_flatMap.mp hmem
      exact h.isFlagged (.inr ⟨c, hc, ih c hc (h.of_mem_children hc) hmem⟩)

theorem FlagsRise.of_mem_preorder (h : t.FlagsRise) (hu : u ∈ t.preorder) : u.FlagsRise := by
  induction t using induction_on_children with
  | h t ih =>
    rw [preorder_eq] at hu
    rcases List.mem_cons.mp hu with rfl | hu
    · exact h
    · obtain ⟨c, hc, hu⟩ := List.mem_flatMap.mp hu
      exact ih c hc (h.of_mem_children hc) hu

/-- Where flags go up, all nodes above a fault are flagged. -/
theorem FlagsRise.flagsCover (h : t.FlagsRise) : t.FlagsCover := by
  intro u hu c hc v hv hfault
  have hrise := h.of_mem_preorder hu
  exact hrise.isFlagged
    (.inr ⟨c, hc, (hrise.of_mem_children hc).isFlagged_of_mem_preorder hv hfault⟩)

end SyntaxTree

/-- In the tree of each text flags go up. -/
theorem flagsRise_parse (text : List Char) : (parse text).FlagsRise := by
  have htrees := forall_mem_treesOf SyntaxTree.spreads_flagsRise ((Token.scan text).map .token)
  refine .node ?_ ?_ htrees
  · intro hself
    simp at hself
  · intro t ht hflag
    have hany := List.any_eq_true.mpr ⟨t, ht, hflag⟩
    simpa [SyntaxTree.root] using hany

/-- The fault that is found in the tree of a text stands first in document order. -/
theorem firstFault?_parse (text : List Char) :
    (parse text).firstFault? = (parse text).preorder.find? SyntaxTree.isFault :=
  SyntaxTree.firstFault?_eq_find? (flagsRise_parse text).flagsCover

end GoStructs.Syntax
