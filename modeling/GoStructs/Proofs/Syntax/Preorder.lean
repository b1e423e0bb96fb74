import GoStructs.Syntax.Tree
import Mathlib.Data.List.Lex
/-! # Document order

The shown nodes of a tree stand in document order: a node in front of its subtrees, and these from
left to right.  A node that is shown has an address, which tells step by step which of the shown
subtrees to enter; and document order is the lexicographic order of the addresses, in which an
address stands in front of all that go on from it.

## Main statements

* `SyntaxTree.preorder_eq`: document order, said with the shown subtrees alone.
* `SyntaxTree.mem_preorder_iff`: the nodes in document order are those that have an address.
* `SyntaxTree.find?_preorder_eq_some_iff`: of the nodes that pass a test, the first in document
  order is the one with the least address. -/

namespace GoStructs.Syntax.SyntaxTree

variable {t u v : SyntaxTree}

/-! ## Shown subtrees -/

theorem preorderAll_eq_flatMap (ts : List SyntaxTree) :
    preorderAll ts = (ts.filter fun c => c.kind.isShown).flatMap preorder := by
  induction ts with
  | nil => rfl
  | cons t ts ih =>
    rw [preorderAll, ih, List.filter_cons, ← kind]
    split
    · rw [List.flatMap_cons]
    · rfl

/-- In document order a tree stands in front of what its shown subtrees show. -/
theorem preorder_eq (t : SyntaxTree) : t.preorder = t :: t.children.flatMap preorder := by
  cases t with
  | node i ts => rw [preorder, preorderAll_eq_flatMap]; rfl

theorem isShown_of_mem_children (h : u ∈ t.children) : u.kind.isShown :=
  (List.mem_filter.mp h).2

theorem sizeOf_lt_of_mem_children (h : u ∈ t.children) : sizeOf u < sizeOf t := by
  cases t with
  | node i ts =>
    have hmem : u ∈ ts := (List.mem_filter.mp h).1
    have hlt := List.sizeOf_lt_of_mem hmem
    simp only [node.sizeOf_spec]
    omega

/-- What a tree has as soon as its shown subtrees have it, all trees have. -/
@[elab_as_elim]
theorem induction_on_children {motive : SyntaxTree → Prop} (t : SyntaxTree)
    (h : ∀ t : SyntaxTree, (∀ c ∈ t.children, motive c) → motive t) : motive t :=
  h t fun c hc =>
    have := sizeOf_lt_of_mem_children hc
    induction_on_children c h
termination_by sizeOf t

theorem mem_preorder_self (t : SyntaxTree) : t ∈ t.preorder := by
  rw [preorder_eq]
  exact List.mem_cons_self

theorem preorder_subset_of_mem_children (h : u ∈ t.children) : u.preorder ⊆ t.preorder := by
  intro v hv
  rw [preorder_eq]
  exact List.mem_cons_of_mem _ (List.mem_flatMap.mpr ⟨u, h, hv⟩)

/-- What is shown of a tree is a part of it, and but for the tree itself of a kind that is shown. -/
theorem isShown_of_mem_preorder (h : u ∈ t.preorder) : u = t ∨ u.kind.isShown := by
  induction t using induction_on_children with
  | h t ih =>
    rw [preorder_eq] at h
    rcases List.mem_cons.mp h with heq | h
    · exact .inl heq
    · obtain ⟨c, hc, hu⟩ := List.mem_flatMap.mp h
      rcases ih c hc hu with heq | hshown
      · exact .inr (heq ▸ isShown_of_mem_children hc)
      · exact .inr hshown

/-! ## Addresses -/

/-- The node at an address: each number tells which of the shown subtrees to enter, counted from
zero. -/
def at? (t : SyntaxTree) : List Nat → Option SyntaxTree
  | [] => some t
  | n :: ns => t.children[n]?.bind fun c => c.at? ns

theorem at?_cons_eq_some_iff {n : Nat} {ns : List Nat} :
    t.at? (n :: ns) = some u ↔ ∃ c, t.children[n]? = some c ∧ c.at? ns = some u := by
  rw [at?, Option.bind_eq_some_iff]

/-- An address below an address. -/
theorem at?_append {a b : List Nat} (h : t.at? a = some u) : t.at? (a ++ b) = u.at? b := by
  induction a generalizing t with
  | nil =>
    obtain rfl := Option.some.inj h
    rfl
  | cons n ns ih =>
    obtain ⟨c, hc, hu⟩ := at?_cons_eq_some_iff.mp h
    rw [List.cons_append, at?, hc]
    exact ih hu

/-- The nodes in document order are those that have an address. -/
theorem mem_preorder_iff : u ∈ t.preorder ↔ ∃ a, t.at? a = some u := by
  induction t using induction_on_children with
  | h t ih =>
    rw [preorder_eq, List.mem_cons, List.mem_flatMap]
    constructor
    · rintro (rfl | ⟨c, hc, hu⟩)
      · exact ⟨[], rfl⟩
      · obtain ⟨a, ha⟩ := (ih c hc).mp hu
        obtain ⟨n, hn⟩ := List.mem_iff_getElem?.mp hc
        exact ⟨n :: a, at?_cons_eq_some_iff.mpr ⟨c, hn, ha⟩⟩
    · rintro ⟨a, ha⟩
      cases a with
      | nil => exact .inl (Option.some.inj ha).symm
      | cons n ns =>
        obtain ⟨c, hn, hu⟩ := at?_cons_eq_some_iff.mp ha
        have hc : c ∈ t.children := List.mem_iff_getElem?.mpr ⟨n, hn⟩
        exact .inr ⟨c, hc, (ih c hc).mpr ⟨ns, hu⟩⟩

/-- What is shown below a node that is shown is shown. -/
theorem mem_preorder_trans (hv : v ∈ u.preorder) (hu : u ∈ t.preorder) : v ∈ t.preorder := by
  obtain ⟨a, ha⟩ := mem_preorder_iff.mp hu
  obtain ⟨b, hb⟩ := mem_preorder_iff.mp hv
  exact mem_preorder_iff.mpr ⟨a ++ b, (at?_append ha).trans hb⟩

/-! ## The first node that passes a test -/

section

variable {p : SyntaxTree → Bool}

theorem find?_preorder (p : SyntaxTree → Bool) (t : SyntaxTree) :
    t.preorder.find? p
      = if p t then some t else t.children.findSome? fun c => c.preorder.find? p := by
  rw [preorder_eq, List.find?_cons, List.find?_flatMap]
  cases p t <;> rfl

/-- The first node in document order has no other node that passes the test in front of its
address. -/
theorem exists_least_of_find?_preorder (h : t.preorder.find? p = some u) :
    ∃ a, t.at? a = some u ∧ ∀ b v, t.at? b = some v → p v → a ≤ b := by
  induction t using induction_on_children with
  | h t ih =>
    rw [find?_preorder] at h
    by_cases ht : p t
    · rw [if_pos ht] at h
      exact ⟨[], h, fun b _ _ _ => not_lt.mp (List.not_lt_nil b)⟩
    · rw [if_neg ht] at h
      obtain ⟨before, c, after, hsplit, hfind, hbefore⟩ := List.findSome?_eq_some_iff.mp h
      have hc : c ∈ t.children := by
        rw [hsplit]
        exact List.mem_append_right _ List.mem_cons_self
      obtain ⟨a, ha, hleast⟩ := ih c hc hfind
      refine ⟨before.length :: a, at?_cons_eq_some_iff.mpr ⟨c, by simp [hsplit], ha⟩, ?_⟩
      intro b v hv hpv
      cases b with
      | nil =>
        obtain rfl := Option.some.inj hv
        exact absurd hpv ht
      | cons n ns =>
        obtain ⟨c', hn, hv⟩ := at?_cons_eq_some_iff.mp hv
        rw [hsplit] at hn
        -- the address enters a subtree in front of the one where the node is found, that one, or
        -- one behind it
        rcases Nat.lt_trichotomy n before.length with hlt | rfl | hgt
        · rw [List.getElem?_append_left hlt] at hn
          have hnone := hbefore c' (List.mem_iff_getElem?.mpr ⟨n, hn⟩)
          have hno := List.find?_eq_none.mp hnone v (mem_preorder_iff.mpr ⟨ns, hv⟩)
          exact absurd hpv hno
        · rw [List.getElem?_append_right (Nat.le_refl _), Nat.sub_self] at hn
          obtain rfl := Option.some.inj hn
          exact List.cons_le_cons _ (hleast ns v hv hpv)
        · exact (List.cons_lt_cons_iff.mpr (.inl hgt)).le

/-- The first node in document order that passes a test is the one with the least address. -/
theorem find?_preorder_eq_some_iff :
    t.preorder.find? p = some u
      ↔ ∃ a, t.at? a = some u ∧ p u ∧ ∀ b v, t.at? b = some v → p v → a ≤ b := by
  constructor
  · intro h
    obtain ⟨a, ha, hleast⟩ := exists_least_of_find?_preorder h
    exact ⟨a, ha, List.find?_some h, hleast⟩
  · rintro ⟨a, ha, hu, hleast⟩
    have hsome : (t.preorder.find? p).isSome :=
      List.find?_isSome.mpr ⟨u, mem_preorder_iff.mpr ⟨a, ha⟩, hu⟩
    obtain ⟨v, hv⟩ := Option.isSome_iff_exists.mp hsome
    obtain ⟨b, hb, hleast'⟩ := exists_least_of_find?_preorder hv
    -- each of the two addresses is no greater than the other
    obtain rfl : a = b :=
      le_antisymm (hleast b v hb (List.find?_some hv)) (hleast' a u ha hu)
    rw [hv]
    exact hb.symm.trans ha

theorem find?_preorder_eq_none_iff :
    t.preorder.find? p = none ↔ ∀ a u, t.at? a = some u → p u = false := by
  rw [List.find?_eq_none]
  simp only [mem_preorder_iff, Bool.not_eq_true]
  constructor
  · intro h a u ha
    exact h u ⟨a, ha⟩
  · rintro h u ⟨a, ha⟩
    exact h a u ha

end

end GoStructs.Syntax.SyntaxTree
