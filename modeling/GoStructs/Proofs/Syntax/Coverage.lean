import GoStructs.Proofs.Syntax.Layout
/-! # Every token of code is in the tree

The tree of a file that shows no fault leaves out white space only: for each token of its text that
is neither a comment nor the end of a line there is a leaf in the tree that ends where the token
does, and each construct above the leaf is shown.  So whatever code stands in front of a node is
found among the nodes in front of it.

## Main statements

* `SyntaxTree.Ends.between`: a leaf lies inside the constructs above it.
* `exists_ends_of_mem_scan`: each token of code ends a leaf of the tree. -/

namespace GoStructs.Syntax

/-- Code is all that is neither a comment nor white space. -/
def Token.isCode (t : Token) : Bool := t.kind != .comment && t.kind != .lineEnd

theorem Token.isShown_looseKind {tok : Token} (h : tok.isCode) : tok.looseKind.isShown := by
  obtain ⟨kind, text, start, stop⟩ := tok
  cases kind <;> simp_all [isCode, looseKind, Kind.isShown]

/-- A leaf that ends at the place is the tree itself, or is found in it under constructs that are
shown. -/
inductive SyntaxTree.Ends (p : Position) : SyntaxTree → Prop where
  | leaf {i : NodeInfo} (hshown : i.kind.isShown) (hstop : i.stop = p) :
      SyntaxTree.Ends p (.node i [])
  | inside {i : NodeInfo} {ts : List SyntaxTree} {t : SyntaxTree} (hshown : i.kind.isShown)
      (ht : t ∈ ts) (h : SyntaxTree.Ends p t) : SyntaxTree.Ends p (.node i ts)

namespace SyntaxTree.Ends

variable {p : Position} {t : SyntaxTree}

theorem isShown (h : t.Ends p) : t.kind.isShown := by
  cases h with
  | leaf hshown _ => exact hshown
  | inside hshown _ _ => exact hshown

theorem withLabel (h : t.Ends p) (l : Label) : (t.withLabel l).Ends p := by
  unfold SyntaxTree.withLabel
  split
  · exact h
  · cases h with
    | leaf hshown hstop => exact .leaf hshown hstop
    | inside hshown ht h => exact .inside hshown ht h

/-- A tree that has parts holds the leaf in one of those that are shown. -/
theorem exists_child (h : t.Ends p) (hparts : t.subtrees ≠ []) : ∃ u ∈ t.children, u.Ends p := by
  cases h with
  | leaf _ _ => exact absurd rfl hparts
  | inside _ ht h => exact ⟨_, List.mem_filter.mpr ⟨ht, h.isShown⟩, h⟩

/-- The leaf lies inside the tree, and is not empty. -/
theorem between {text : List Char} {lo hi : Nat} (h : t.Ends p) (hlaid : Laid text lo [t] hi) :
    t.start.offset < p.offset ∧ p.offset ≤ t.stop.offset := by
  induction h generalizing lo hi with
  | leaf hshown hstop =>
    have hlt := hlaid.start_lt_stop (Or.inr hshown)
    rw [← hstop]
    exact ⟨hlt, Nat.le_refl _⟩
  | inside hshown ht _ ih =>
    -- a part lies between the beginning and the end of the whole
    have hpart := hlaid.subtrees.of_mem ht
    obtain ⟨hlt, hle⟩ := ih hpart
    exact ⟨Nat.lt_of_le_of_lt hpart.le_start hlt, Nat.le_trans hle hpart.stop_le⟩

end SyntaxTree.Ends

open SyntaxTree (Ends)

theorem ends_leaf {tok : Token} {kind : Kind} {missing : Bool} (hshown : kind.isShown) :
    (tok.leaf kind missing).Ends tok.stop :=
  .leaf hshown rfl

/-- The item is a token of code that ends at the place. -/
def Item.EndsAt (p : Position) (i : Item) : Prop :=
  ∃ tok, i = .token tok ∧ tok.isCode ∧ tok.stop = p

/-- Of a token of code that is read in part, the rest ends where it does. -/
theorem Terminal.take?_cases {t : Terminal} {tok used : Token} {more : List Token}
    (h : t.take? tok = some (used, more)) :
    (used = tok ∧ more = [])
      ∨ ∃ m, more = [m] ∧ m.kind = .operator ∧ m.stop = tok.stop := by
  cases t with
  | opening text =>
    simp only [take?, Option.ite_none_right_eq_some, Option.some.injEq, Prod.mk.injEq] at h
    obtain ⟨-, -, rfl⟩ := h
    exact Or.inr ⟨_, rfl, rfl, rfl⟩
  | word _ | keyword _ | operator _ | ofKind _ =>
    simp only [take?, Option.ite_none_right_eq_some, Option.some.injEq, Prod.mk.injEq] at h
    obtain ⟨-, rfl, rfl⟩ := h
    exact Or.inl ⟨rfl, rfl⟩

/-- A token of code matters until a leaf ends where it does. -/
theorem keeping_code (p : Position) : Keeping (Item.EndsAt p) (Ends p) where
  aside _ := by
    rintro ⟨_, h, -⟩
    cases h
  placed tok := by
    rintro ⟨_, h, hcode, -⟩
    cases h
    simpa [Token.isCode] using hcode
  taken := by
    intro t kind tok used more hmakes htake hitem
    obtain ⟨_, h, hcode, hstop⟩ := hitem
    cases h
    rcases Terminal.take?_cases htake with ⟨rfl, -⟩ | ⟨m, rfl, hkind, hm⟩
    · left
      simp only [Terminal.makesLeaf, Bool.and_eq_true] at hmakes
      rw [← hstop]
      exact ends_leaf hmakes.1.1.1
    · right
      refine ⟨m, List.mem_singleton_self m, m, rfl, ?_, hm.trans hstop⟩
      simp [Token.isCode, hkind]
  supplied := by
    intro t kind tok used more _ _ hitem
    obtain ⟨_, h, -⟩ := hitem
    cases h
  ending tok := by
    rintro ⟨_, h, hcode, hstop⟩
    cases h
    rw [← hstop]
    exact ends_leaf (Token.isShown_looseKind hcode)
  -- every construct is shown
  construct _ _ _ ht hends := .inside rfl ht hends
  withLabel l hends := hends.withLabel l

/-- In a text without a fault each token of code ends a leaf of some tree. -/
theorem exists_ends_of_mem_scan {text : List Char} {stop : Position}
    (h : (SyntaxTree.root (treesOf ((Token.scan text).map .token)) stop).firstFault? = none)
    {tok : Token} (htok : tok ∈ Token.scan text) (hcode : tok.isCode) :
    ∃ t ∈ treesOf ((Token.scan text).map .token), t.Ends tok.stop := by
  obtain ⟨r, hr, hdone, hrest⟩ := Outline.reads_of_trees (trees_of_firstFault_eq_none h)
  have hitem : ∃ i ∈ (Token.scan text).map Item.token, i.EndsAt tok.stop :=
    ⟨.token tok, List.mem_map_of_mem htok, tok, rfl, hcode, rfl⟩
  -- at the end of the file nothing is left to read
  rcases hr.keeps (keeping_code tok.stop) Grammar.isProper_table Grammar.isProper_file
    (Or.inl hitem) with ⟨i, hi, -⟩ | ⟨t, ht, hends⟩
  · rw [hrest] at hi
    cases hi
  · exact ⟨t, hdone ▸ List.mem_reverse.mpr ht, hends⟩

end GoStructs.Syntax
