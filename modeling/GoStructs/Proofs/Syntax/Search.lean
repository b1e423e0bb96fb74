import GoStructs.Proofs.Syntax.Preorder
/-! # The search for the first fault

The search for the first fault of a tree passes over what is not flagged.  It needs no more than
that all nodes above a fault are flagged: then it finds the fault that stands first in document
order, and finds none only if there is none.  A fault itself need not be flagged, since it is looked
at before its flag is; and a flag may be set where there is no fault below, as it is above a missing
line end, which is not shown: there the search goes in vain and then goes on behind.

## Main statements

* `SyntaxTree.FlagsCover`: all nodes above a fault are flagged.
* `SyntaxTree.firstFault?_eq_find?`: the search is one of the whole tree in document order.
* `SyntaxTree.firstFault?_is_first`: what is found stands first, nothing is hidden where the search
  stops, and what is flagged in vain does not stop it. -/

namespace GoStructs.Syntax.SyntaxTree

variable {t u : SyntaxTree}

theorem findSome?_congr {α β : Type} {f g : α → Option β} {as : List α}
    (h : ∀ a ∈ as, f a = g a) : as.findSome? f = as.findSome? g := by
  induction as with
  | nil => rfl
  | cons a as ih =>
    obtain ⟨ha, has⟩ := List.forall_mem_cons.mp h
    rw [List.findSome?_cons, List.findSome?_cons, ha, ih has]

/-- All nodes above a fault that is shown are flagged. -/
def FlagsCover (t : SyntaxTree) : Prop :=
  ∀ u ∈ t.preorder, ∀ c ∈ u.children, ∀ v ∈ c.preorder, v.isFault → u.isFlagged

theorem FlagsCover.of_mem_preorder (h : t.FlagsCover) (hu : u ∈ t.preorder) : u.FlagsCover :=
  fun w hw => h w (mem_preorder_trans hw hu)

theorem FlagsCover.of_mem_children (h : t.FlagsCover) (hu : u ∈ t.children) : u.FlagsCover :=
  h.of_mem_preorder (preorder_subset_of_mem_children hu u.mem_preorder_self)

/-! ## The search, said with the shown subtrees alone -/

theorem firstFaultAmong?_eq_findSome? (ts : List SyntaxTree) :
    firstFaultAmong? ts = (ts.filter fun c => c.kind.isShown).findSome? firstFault? := by
  induction ts with
  | nil => rfl
  | cons t ts ih =>
    rw [firstFaultAmong?, ih, List.filter_cons, ← kind]
    split
    · rw [List.findSome?_cons]
      cases t.firstFault? <;> rfl
    · rfl

/-- A fault is found at once; below a node that is not flagged nothing is searched. -/
theorem firstFault?_eq_ite (t : SyntaxTree) :
    t.firstFault?
      = if t.isFault then some t
        else if t.isFlagged then t.children.findSome? firstFault? else none := by
  cases t with
  | node i ts =>
    rw [firstFault?, firstFaultAmong?_eq_findSome?]
    change (if (SyntaxTree.node i ts).isFault then _ else _) = _
    congr 1
    cases hflag : i.flagged
    all_goals simp [isFlagged, info, hflag, children, subtrees]

/-- What the search finds is shown, whatever is flagged, and it is a fault. -/
theorem mem_preorder_of_firstFault? (h : t.firstFault? = some u) :
    u ∈ t.preorder ∧ u.isFault := by
  induction t using induction_on_children with
  | h t ih =>
    rw [firstFault?_eq_ite] at h
    by_cases hfault : t.isFault
    · rw [if_pos hfault] at h
      obtain rfl := Option.some.inj h
      exact ⟨t.mem_preorder_self, hfault⟩
    · rw [if_neg hfault, Option.ite_none_right_eq_some] at h
      obtain ⟨c, hc, hu⟩ := List.exists_of_findSome?_eq_some h.2
      obtain ⟨hmem, hufault⟩ := ih c hc hu
      exact ⟨preorder_subset_of_mem_children hc hmem, hufault⟩

/-- Where all nodes above a fault are flagged, the flags may be ignored. -/
theorem firstFault?_of_flagsCover (h : t.FlagsCover) :
    t.firstFault? = if t.isFault then some t else t.children.findSome? firstFault? := by
  rw [firstFault?_eq_ite]
  congr 1
  by_cases hflag : t.isFlagged
  · rw [if_pos hflag]
  · -- where no flag is set there is nothing to find
    rw [if_neg hflag, eq_comm, List.findSome?_eq_none_iff]
    intro c hc
    rw [Option.eq_none_iff_forall_ne_some]
    intro v hv
    obtain ⟨hmem, hfault⟩ := mem_preorder_of_firstFault? hv
    exact hflag (h t t.mem_preorder_self c hc v hmem hfault)

/-- The search finds what a search of the whole tree in document order finds. -/
theorem firstFault?_eq_find? (h : t.FlagsCover) : t.firstFault? = t.preorder.find? isFault := by
  induction t using induction_on_children with
  | h t ih =>
    rw [firstFault?_of_flagsCover h, find?_preorder]
    congr 1
    exact findSome?_congr fun c hc => ih c hc (h.of_mem_children hc)

/-- A part without a fault is passed over, flagged or not. -/
theorem findSome?_firstFault?_append {before after : List SyntaxTree}
    (h : ∀ v ∈ u.preorder, v.isFault = false) :
    (before ++ u :: after).findSome? firstFault? = (before ++ after).findSome? firstFault? := by
  have hnone : u.firstFault? = none := by
    rw [Option.eq_none_iff_forall_ne_some]
    intro v hv
    obtain ⟨hmem, hfault⟩ := mem_preorder_of_firstFault? hv
    rw [h v hmem] at hfault
    cases hfault
  rw [List.findSome?_append, List.findSome?_append, List.findSome?_cons, hnone]

/-! ## The first fault -/

/-- The node at the address is a fault, and no fault has an address in front of that. -/
structure IsFirstFault (t : SyntaxTree) (a : List Nat) (u : SyntaxTree) : Prop where
  stands : t.at? a = some u
  fault : u.isFault
  first : ∀ b v, t.at? b = some v → v.isFault → a ≤ b

/-- If all nodes above a fault are flagged, then the search finds the fault with the first address,
and none only if no node is a fault.  This is what a search of the whole tree in document order
would find.  At whatever node the search finds nothing, it hides nothing; and a part that is flagged
in vain does not keep it from the parts behind. -/
theorem firstFault?_is_first (h : t.FlagsCover) :
    (∀ u, t.firstFault? = some u ↔ ∃ a, t.IsFirstFault a u)
      ∧ (t.firstFault? = none ↔ ∀ a u, t.at? a = some u → u.isFault = false)
      ∧ t.firstFault? = t.preorder.find? isFault
      ∧ (∀ a u, t.at? a = some u → u.firstFault? = none →
          ∀ b v, u.at? b = some v → v.isFault = false)
      ∧ ∀ a u before c after, t.at? a = some u → u.isFault = false →
          u.children = before ++ c :: after → (∀ b v, c.at? b = some v → v.isFault = false) →
            u.firstFault? = (before ++ after).findSome? firstFault? := by
  have hfind := firstFault?_eq_find? h
  have hnone : ∀ u ∈ t.preorder, u.firstFault? = none →
      ∀ b v, u.at? b = some v → v.isFault = false := by
    intro u hu hsearch
    rw [firstFault?_eq_find? (h.of_mem_preorder hu)] at hsearch
    exact find?_preorder_eq_none_iff.mp hsearch
  refine ⟨?_, ?_, hfind, ?_, ?_⟩
  · intro u
    rw [hfind, find?_preorder_eq_some_iff]
    constructor
    · rintro ⟨a, ha, hfault, hfirst⟩
      exact ⟨a, ha, hfault, hfirst⟩
    · rintro ⟨a, ha, hfault, hfirst⟩
      exact ⟨a, ha, hfault, hfirst⟩
  · rw [hfind]
    exact find?_preorder_eq_none_iff
  · intro a u ha
    exact hnone u (mem_preorder_iff.mpr ⟨a, ha⟩)
  · intro a u before c after ha hfault hsplit hclean
    have hu := h.of_mem_preorder (mem_preorder_iff.mpr ⟨a, ha⟩)
    rw [firstFault?_of_flagsCover hu, hfault, hsplit]
    apply findSome?_firstFault?_append
    intro v hv
    obtain ⟨b, hb⟩ := mem_preorder_iff.mp hv
    exact hclean b v hb

/-- A node in a row. -/
def inRow (row : Nat) (kind : Kind) (missing flagged : Bool) (ts : List SyntaxTree) : SyntaxTree :=
  .node ⟨kind, none, ⟨0, row, 0⟩, ⟨0, row, 0⟩, missing, flagged⟩ ts

/-- A declaration that lacks its line end, which is flagged and not shown. -/
def endlessDeclaration : SyntaxTree :=
  inRow 0 (.node .typeDeclaration) false true
    [inRow 0 (.token "type") false false [], inRow 0 .lineEnd true true []]

/-- An error with an error and a missing token in it, which are not flagged themselves. -/
def nestedErrors : SyntaxTree :=
  inRow 1 .error false true [inRow 1 .error false false [], inRow 1 (.token "\x7d") true false []]

/-- A declaration that is flagged in vain, a declaration with errors, and a missing token. -/
def vainlyFlagged : SyntaxTree :=
  inRow 0 (.node .sourceFile) false true
    [endlessDeclaration,
      inRow 1 (.node .varDeclaration) false true
        [inRow 1 (.token "var") false false [], nestedErrors],
      inRow 2 (.token ")") true false []]

/-- The search goes through the first declaration in vain, goes on behind it, and finds the outer of
the errors in the second. -/
theorem firstFault?_is_first_vainlyFlagged :
    vainlyFlagged.FlagsCover ∧ (∃ a, vainlyFlagged.IsFirstFault a nestedErrors)
      ∧ endlessDeclaration.isFlagged
      ∧ vainlyFlagged.firstFault? = (vainlyFlagged.children.drop 1).findSome? firstFault? := by
  have hcover : vainlyFlagged.FlagsCover := by
    unfold FlagsCover
    decide
  obtain ⟨hfirst, -, -, -, hbehind⟩ := firstFault?_is_first hcover
  have hclean : ∀ b v, endlessDeclaration.at? b = some v → v.isFault = false :=
    find?_preorder_eq_none_iff.mp rfl
  have hsearch : vainlyFlagged.firstFault? = some nestedErrors := rfl
  exact ⟨hcover, (hfirst nestedErrors).mp hsearch, rfl, hbehind [] _ [] _ _ rfl rfl rfl hclean⟩

end GoStructs.Syntax.SyntaxTree
