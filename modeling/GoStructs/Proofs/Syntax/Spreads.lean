import GoStructs.Proofs.Syntax.Faults
/-! # What spreads over the trees of a text

The trees of a text are made of leaves and missing line ends, by putting trees together to
constructs and by labels, whether the text is read as it is or mended.  What holds of leaves and
goes on from trees to what is made of them therefore holds of all trees of a text.

## Main statements

* `Spreads`: a property that leaves have and that goes on to constructs.
* `forall_mem_treesOf`: such a property holds of all trees of a text. -/

namespace GoStructs.Syntax

/-- Leaves have the property, and it goes on from some trees to the construct made of them. -/
structure Spreads (P : SyntaxTree → Prop) : Prop where
  leaf (t : Token) {kind : Kind} (missing : Bool) : kind ≠ .error → P (t.leaf kind missing)
  gap (p : Position) : P (.node ⟨.lineEnd, none, p, p, true, true⟩ [])
  construct (kind : Kind) {ts : List SyntaxTree} : (∀ t ∈ ts, P t) → P (.ofSubtrees kind ts)
  withLabel {t : SyntaxTree} (l : Label) : P t → P (t.withLabel l)

theorem Token.looseKind_ne_error (t : Token) : t.looseKind ≠ .error := by
  unfold Token.looseKind
  split
  all_goals simp

theorem Terminal.ne_error_of_makesLeaf {t : Terminal} {kind : Kind} (h : t.makesLeaf kind) :
    kind ≠ .error := by
  simp only [Terminal.makesLeaf, Bool.and_eq_true, bne_iff_ne] at h
  exact h.1.2

variable {P : SyntaxTree → Prop}

/-- Text that is set aside is made of leaves. -/
theorem Spreads.aside (hP : Spreads P) (ts : List Token) :
    P (.ofSubtrees .error (ts.map fun t => t.leaf t.looseKind false)) := by
  apply hP.construct
  intro u hu
  obtain ⟨t, -, rfl⟩ := List.mem_map.mp hu
  exact hP.leaf t false t.looseKind_ne_error

namespace Reading

variable {r r' : Reading}

theorem forall_mem_settle (hP : Spreads P) (lines : Bool) (done : List SyntaxTree) (passed : Nat)
    (items : List Item) (h : ∀ t ∈ done, P t) :
    ∀ t ∈ (settle lines done passed items).done, P t := by
  fun_induction settle lines done passed items with
  | case1 | case5 | case6 => exact h
  | case2 done passed ts rest error ih =>
    apply ih
    intro t ht
    rcases List.mem_cons.mp ht with heq | ht
    · rw [heq]
      exact hP.aside ts
    · exact h t ht
  | case3 done passed tok rest hc ih =>
    apply ih
    intro t ht
    rcases List.mem_cons.mp ht with heq | ht
    · rw [heq]
      exact hP.leaf tok false (by simp)
    · exact h t ht
  | case4 done passed tok rest hc hl ih => exact ih h

theorem forall_mem_leaf (hP : Spreads P) {t : Terminal} {kind : Kind} (hmakes : t.makesLeaf kind)
    (h : ∀ t ∈ r.done, P t) (hleaf : r.leaf? t kind = some r') : ∀ t ∈ r'.done, P t := by
  have hkind := Terminal.ne_error_of_makesLeaf hmakes
  rcases leaf?_cases hleaf with ⟨_, _, used, _, _, -, -, rfl⟩ | ⟨_, _, used, _, -, rfl⟩
  · exact List.forall_mem_cons.mpr ⟨hP.leaf used false hkind, h⟩
  · exact List.forall_mem_cons.mpr ⟨hP.leaf used true hkind, h⟩

theorem forall_mem_terminator (hP : Spreads P) (h : ∀ t ∈ r.done, P t)
    (hend : r.terminator? = some r') : ∀ t ∈ r'.done, P t := by
  obtain ⟨tok, _, -, -, rfl⟩ := terminator?_cases hend
  exact List.forall_mem_cons.mpr ⟨hP.leaf tok false tok.looseKind_ne_error, h⟩

theorem forall_mem_close (hP : Spreads P) {kind : NodeKind} {outer : List SyntaxTree}
    (h : ∀ t ∈ r.done, P t) (houter : ∀ t ∈ outer, P t) : ∀ t ∈ (r.close kind outer).done, P t := by
  intro t ht
  simp only [close, List.mem_cons, List.mem_append, List.mem_reverse] at ht
  rcases ht with heq | hlead | houter'
  · -- the construct is made of trees that have been read
    rw [heq]
    apply hP.construct
    intro u hu
    have hmem := (List.dropWhile_sublist _).mem hu
    exact h u (List.mem_reverse.mp hmem)
  · have hmem := (List.takeWhile_sublist _).mem hlead
    exact h t (List.mem_reverse.mp hmem)
  · exact houter t houter'

end Reading

/-- A pattern makes no trees but those to which the property goes on. -/
theorem Pattern.Reads.forall_mem_done {ρ : Type} {grammar : ρ → Pattern ρ} {filling : ρ → Bool}
    (hP : Spreads P) (hgrammar : IsProperTable filling grammar) {p : Pattern ρ} {r r' : Reading}
    (h : Reads grammar p r r') {filled : Bool} (hp : p.isProper filling filled)
    (hr : ∀ t ∈ r.done, P t) : ∀ t ∈ r'.done, P t := by
  induction h generalizing filled with
  | empty | stop | test => exact hr
  | leaf h =>
    exact Reading.forall_mem_leaf hP hp (Reading.forall_mem_settle hP _ _ _ _ hr) h
  | seq _ _ ihp ihq =>
    obtain ⟨hp, hq⟩ := isProper_seq_iff.mp hp
    exact ihq hq (ihp hp hr)
  | left _ ih =>
    obtain ⟨hp, -⟩ := isProper_either_iff.mp hp
    exact ih hp hr
  | right _ ih =>
    obtain ⟨-, hq⟩ := isProper_either_iff.mp hp
    exact ih hq hr
  | again _ _ ihp ihmany => exact ihmany hp (ihp hp hr)
  | node _ ih =>
    obtain ⟨-, hp, -⟩ := isProper_node_iff.mp hp
    exact Reading.forall_mem_close hP (ih hp (by simp)) hr
  | wrap _ ih =>
    obtain ⟨-, hp, -⟩ := isProper_wrap_iff.mp hp
    exact Reading.forall_mem_close hP (ih hp hr) (by simp)
  | group _ ih =>
    intro t ht
    rcases List.mem_append.mp ht with ht | ht
    · exact ih hp (by simp) t ht
    · exact hr t ht
  | label _ ih =>
    intro t ht
    rcases List.mem_append.mp ht with ht | ht
    · obtain ⟨u, hu, heq⟩ := List.mem_map.mp ht
      rw [← heq]
      exact hP.withLabel _ (ih hp (by simp) u hu)
    · exact hr t ht
  | terminator h =>
    exact Reading.forall_mem_terminator hP (Reading.forall_mem_settle hP _ _ _ _ hr) h
  | gap => exact List.forall_mem_cons.mpr ⟨hP.gap _, hr⟩
  | finish => exact Reading.forall_mem_settle hP _ _ _ _ hr
  | rule _ ih => exact ih (hgrammar.isProper _) hr

theorem Outline.forall_mem_trees (hP : Spreads P) {items : List Item} {ts : List SyntaxTree}
    (h : (Outline.ofItems items).trees = some ts) : ∀ t ∈ ts, P t := by
  obtain ⟨r, hreads, hdone, -⟩ := Outline.reads_of_trees h
  have hall := hreads.forall_mem_done hP Grammar.isProper_table Grammar.isProper_file (by simp)
  intro t ht
  rw [← hdone] at ht
  exact hall t (List.mem_reverse.mp ht)

theorem Item.spreads_looseTree (hP : Spreads P) (i : Item) : P i.looseTree := by
  cases i with
  | token t => exact hP.leaf t false t.looseKind_ne_error
  | aside ts => exact hP.aside ts
  | supplied t => exact hP.leaf t true t.looseKind_ne_error

theorem Item.forall_mem_map_looseTree (hP : Spreads P) (items : List Item) :
    ∀ t ∈ items.map Item.looseTree, P t := by
  intro t ht
  obtain ⟨i, -, heq⟩ := List.mem_map.mp ht
  rw [← heq]
  exact i.spreads_looseTree hP

namespace Repair

theorem forall_mem_mend (hP : Spreads P) (items : List Item) (stuck : Nat) :
    ∀ t ∈ mend items stuck, P t := by
  unfold mend
  split
  · next e _ =>
    cases h : (Outline.ofItems (e.apply items)).trees with
    | some ts => exact Outline.forall_mem_trees hP h
    | none => exact Item.forall_mem_map_looseTree hP _
  · exact Item.forall_mem_map_looseTree hP _

theorem forall_mem_rivalTrees (hP : Spreads P) {items : List Item} {gapsLeft limit : Nat}
    {e : Edit} {ts : List SyntaxTree} (h : rivalTrees? items gapsLeft limit e = some ts) :
    ∀ t ∈ ts, P t := by
  unfold rivalTrees? at h
  simp only at h
  split at h
  · next us hus =>
    obtain ⟨-, heq⟩ := Option.ite_none_right_eq_some.mp h
    rw [← Option.some.inj heq]
    exact Outline.forall_mem_trees hP hus
  · obtain ⟨-, heq⟩ := Option.ite_none_right_eq_some.mp h
    rw [← Option.some.inj heq]
    exact Item.forall_mem_map_looseTree hP _

theorem forall_mem_insteadOf (hP : Spreads P) {items : List Item} {ts us : List SyntaxTree}
    {g : Gap} {later : List Gap} (h : insteadOf? items ts g later = some us) :
    ∀ t ∈ us, P t := by
  unfold insteadOf? at h
  simp only at h
  split at h
  · next vs hvs =>
    obtain ⟨o, -, ho⟩ := List.exists_of_findSome?_eq_some hvs
    rw [← Option.some.inj h]
    exact forall_mem_rivalTrees hP ho
  · obtain ⟨-, heq⟩ := Option.ite_none_right_eq_some.mp h
    rw [← Option.some.inj heq]
    exact forall_mem_mend hP items _

theorem forall_mem_replaceGap (hP : Spreads P) {items : List Item} {ts us : List SyntaxTree}
    {gs : List Gap} (h : replaceGap? items ts gs = some us) : ∀ t ∈ us, P t := by
  induction gs with
  | nil => cases h
  | cons g later ih =>
    rcases Option.or_eq_some_iff.mp h with h | ⟨-, h⟩
    · exact forall_mem_insteadOf hP h
    · exact ih h

end Repair

/-- Whether the text is read as it is or mended, the property goes on to all its trees. -/
theorem forall_mem_treesOf (hP : Spreads P) (items : List Item) : ∀ t ∈ treesOf items, P t := by
  unfold treesOf
  simp only
  split
  · next ts hts =>
    unfold Repair.settleGaps
    cases hgap : Repair.replaceGap? items ts (Repair.gapsInOrder ts) with
    | none => exact Outline.forall_mem_trees hP hts
    | some us => exact Repair.forall_mem_replaceGap hP hgap
  · exact Repair.forall_mem_mend hP items _

end GoStructs.Syntax
