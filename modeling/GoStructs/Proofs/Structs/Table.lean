import GoStructs.Structs.Declaration
import Mathlib.Data.List.Dedup
import Mathlib.Data.List.Induction
/-! # Tables of structs

A table is in strictly ascending order of the identities, whatever is put into it and in whatever
order.  Of several structs with one identity a table holds the last; structs that come in ascending
order are all held, as they come; and structs with identities of their own are all held in whatever
order they come.

## Main statements

* `StructTable.isSorted_ofList`: a table is in order.
* `StructTable.mem_ofList_iff`: what a table holds.
* `StructTable.ofList_eq_map`: a table of structs that come in order.
* `StructTable.length_ofList`: how many structs a table holds.
* `StructTable.ofList_eq_of_perm`: a table of structs that come in another order. -/

namespace GoStructs

namespace StructId

/-- The order of the identities is that of their lines, then columns, then names. -/
theorem order_eq_compareLex :
    order = compareLex (compareOn line) (compareLex (compareOn column) (compareOn name)) := rfl

instance : Std.TransCmp order := by
  rw [order_eq_compareLex]
  infer_instance

theorem order_eq_iff {a b : StructId} : order a b = .eq ↔ a = b := by
  obtain ⟨line, column, name⟩ := a
  obtain ⟨line', column', name'⟩ := b
  simp [order, Ordering.then_eq_eq]

theorem order_ne_lt (a : StructId) : order a a ≠ .lt := by
  rw [order_eq_iff.mpr rfl]
  decide

theorem order_trans {a b c : StructId} (hab : order a b = .lt) (hbc : order b c = .lt) :
    order a c = .lt :=
  Std.TransCmp.lt_trans hab hbc

/-- Identities of different places are in the order of these places. -/
theorem order_eq_lt_of_place {a b : StructId}
    (h : a.line < b.line ∨ (a.line = b.line ∧ a.column < b.column)) : order a b = .lt := by
  unfold order
  rcases h with h | ⟨hline, hcol⟩
  · rw [Std.compare_eq_lt.mpr h]
    rfl
  · rw [Std.compare_eq_iff_eq.mpr hline, Std.compare_eq_lt.mpr hcol]
    rfl

end StructId

namespace StructTable

open StructId

/-- The identities are in strictly ascending order. -/
def IsSorted (t : StructTable) : Prop := t.Pairwise fun a b => order a.1 b.1 = .lt

variable {t : StructTable} {id : StructId} {s : ParsedStruct}

theorem mem_insert_iff (h : t.IsSorted) {e : StructId × ParsedStruct} :
    e ∈ insert id s t ↔ e = (id, s) ∨ (e ∈ t ∧ e.1 ≠ id) := by
  induction t with
  | nil => simp [insert]
  | cons d t ih =>
    obtain ⟨k, v⟩ := d
    obtain ⟨hk, ht⟩ := List.pairwise_cons.mp h
    unfold insert
    split
    · next hlt =>
      -- nothing that is there has the new identity
      have hne : ∀ d ∈ (k, v) :: t, d.1 ≠ id := by
        intro d hd heq
        apply order_ne_lt id
        rcases List.mem_cons.mp hd with rfl | hd
        · exact heq ▸ hlt
        · have := order_trans hlt (hk d hd)
          rwa [heq] at this
      constructor
      · intro he
        rcases List.mem_cons.mp he with rfl | he
        · exact Or.inl rfl
        · exact Or.inr ⟨he, hne e he⟩
      · rintro (rfl | ⟨he, -⟩)
        · exact List.mem_cons_self
        · exact List.mem_cons_of_mem _ he
    · -- the first entry is replaced, and no other has its identity
      next heq =>
      obtain rfl := order_eq_iff.mp heq
      constructor
      · intro he
        rcases List.mem_cons.mp he with rfl | he
        · exact Or.inl rfl
        · refine Or.inr ⟨List.mem_cons_of_mem _ he, ?_⟩
          intro hid
          apply order_ne_lt id
          have := hk e he
          rwa [hid] at this
      · rintro (rfl | ⟨he, hne⟩)
        · exact List.mem_cons_self
        · rcases List.mem_cons.mp he with rfl | he
          · exact absurd rfl hne
          · exact List.mem_cons_of_mem _ he
    · -- the first entry stays, and the rest is by induction
      next hgt =>
      have hkne : k ≠ id := by
        rintro rfl
        rw [order_eq_iff.mpr rfl] at hgt
        cases hgt
      rw [List.mem_cons, ih ht, List.mem_cons]
      constructor
      · rintro (rfl | rfl | ⟨he, hne⟩)
        · exact Or.inr ⟨Or.inl rfl, hkne⟩
        · exact Or.inl rfl
        · exact Or.inr ⟨Or.inr he, hne⟩
      · rintro (rfl | ⟨rfl | he, hne⟩)
        · exact Or.inr (Or.inl rfl)
        · exact Or.inl rfl
        · exact Or.inr (Or.inr ⟨he, hne⟩)

theorem isSorted_insert (h : t.IsSorted) : (insert id s t).IsSorted := by
  induction t with
  | nil => exact List.pairwise_singleton _ _
  | cons d t ih =>
    obtain ⟨k, v⟩ := d
    obtain ⟨hk, ht⟩ := List.pairwise_cons.mp h
    unfold insert
    split
    · next hlt =>
      refine List.pairwise_cons.mpr ⟨?_, h⟩
      intro e he
      rcases List.mem_cons.mp he with rfl | he
      · exact hlt
      · exact order_trans hlt (hk e he)
    · next heq =>
      obtain rfl := order_eq_iff.mp heq
      exact List.pairwise_cons.mpr ⟨hk, ht⟩
    · next hgt =>
      refine List.pairwise_cons.mpr ⟨?_, ih ht⟩
      intro e he
      rcases (mem_insert_iff ht).mp he with rfl | ⟨he, -⟩
      · exact Std.OrientedCmp.lt_of_gt hgt
      · exact hk e he

/-- What comes behind all that is there is put at the end. -/
theorem insert_eq_append (h : ∀ e ∈ t, order e.1 id = .lt) : insert id s t = t ++ [(id, s)] := by
  induction t with
  | nil => rfl
  | cons d t ih =>
    obtain ⟨k, v⟩ := d
    have hk : order id k = .gt := Std.OrientedCmp.gt_of_lt (h (k, v) List.mem_cons_self)
    rw [insert, hk]
    simp only [List.cons_append]
    rw [ih fun e he => h e (List.mem_cons_of_mem _ he)]

/-! ## Tables of lists -/

theorem ofList_append_singleton (ss : List ParsedStruct) (s : ParsedStruct) :
    ofList (ss ++ [s]) = insert s.decl.id s (ofList ss) := by
  simp [ofList]

/-- A table is in order. -/
theorem isSorted_ofList (ss : List ParsedStruct) : (ofList ss).IsSorted := by
  induction ss using List.reverseRecOn with
  | nil => exact List.Pairwise.nil
  | append_singleton ss s ih =>
    rw [ofList_append_singleton]
    exact isSorted_insert ih

/-- A table holds, under each identity, the last of the structs that have it. -/
theorem mem_ofList_iff {ss : List ParsedStruct} :
    (id, s) ∈ ofList ss ↔ ss.reverse.find? (·.decl.id == id) = some s := by
  induction ss using List.reverseRecOn with
  | nil => simp [ofList]
  | append_singleton ss r ih =>
    rw [ofList_append_singleton, mem_insert_iff (isSorted_ofList ss), ih]
    simp only [List.reverse_append, List.reverse_cons, List.reverse_nil, List.nil_append,
      List.cons_append, List.find?_cons]
    -- the struct put in last counts, if it has the identity
    by_cases hid : r.decl.id = id
    · subst hid
      simp [eq_comm]
    · have hid' : (r.decl.id == id) = false := by simpa using hid
      simp only [hid', Prod.mk.injEq]
      constructor
      · rintro (⟨rfl, -⟩ | ⟨hfind, -⟩)
        · exact absurd rfl hid
        · exact hfind
      · intro hfind
        exact Or.inr ⟨hfind, Ne.symm hid⟩

/-- Structs that come in ascending order are all held, as they come. -/
theorem ofList_eq_map {ss : List ParsedStruct}
    (h : ss.Pairwise fun a b => order a.decl.id b.decl.id = .lt) :
    ofList ss = ss.map fun s => (s.decl.id, s) := by
  induction ss using List.reverseRecOn with
  | nil => rfl
  | append_singleton ss s ih =>
    obtain ⟨hss, -, hlast⟩ := List.pairwise_append.mp h
    rw [ofList_append_singleton, ih hss, List.map_append]
    apply insert_eq_append
    intro e he
    obtain ⟨r, hr, rfl⟩ := List.mem_map.mp he
    exact hlast r hr s (List.mem_singleton.mpr rfl)

/-! ## Identities of their own -/

/-- No identity stands twice in a table that is in order. -/
theorem IsSorted.nodup_keys (h : t.IsSorted) : (t.map Prod.fst).Nodup := by
  refine List.pairwise_map.mpr (h.imp ?_)
  intro a b hab heq
  rw [heq] at hab
  exact order_ne_lt _ hab

/-- The identities in a table are those of the structs that it is made of. -/
theorem mem_keys_ofList_iff {ss : List ParsedStruct} :
    id ∈ (ofList ss).map Prod.fst ↔ id ∈ ss.map (·.decl.id) := by
  constructor
  · intro h
    obtain ⟨⟨_, s⟩, hs, rfl⟩ := List.mem_map.mp h
    have hfind := mem_ofList_iff.mp hs
    have hid := List.find?_some hfind
    have hmem := List.mem_reverse.mp (List.mem_of_find?_eq_some hfind)
    exact List.mem_map.mpr ⟨s, hmem, eq_of_beq hid⟩
  · intro h
    obtain ⟨s, hs, rfl⟩ := List.mem_map.mp h
    -- something is found under the identity, since the struct itself has it
    have hfound : (ss.reverse.find? (·.decl.id == s.decl.id)).isSome :=
      List.find?_isSome.mpr ⟨s, List.mem_reverse.mpr hs, beq_self_eq_true _⟩
    obtain ⟨r, hr⟩ := Option.isSome_iff_exists.mp hfound
    exact List.mem_map.mpr ⟨(s.decl.id, r), mem_ofList_iff.mpr hr, rfl⟩

/-- A table holds as many structs as there are identities. -/
theorem length_ofList (ss : List ParsedStruct) :
    (ofList ss).length = (ss.map (·.decl.id)).dedup.length := by
  have hkeys : ((ofList ss).map Prod.fst).Perm (ss.map (·.decl.id)).dedup := by
    rw [List.perm_ext_iff_of_nodup (isSorted_ofList ss).nodup_keys (List.nodup_dedup _)]
    intro id
    rw [mem_keys_ofList_iff, List.mem_dedup]
  rw [← hkeys.length_eq, List.length_map]

/-- What has an identity of its own is put beside all that is there. -/
theorem perm_insert (h : id ∉ t.map Prod.fst) : (insert id s t).Perm ((id, s) :: t) := by
  induction t with
  | nil => exact .refl _
  | cons d t ih =>
    obtain ⟨k, v⟩ := d
    rw [List.map_cons, List.mem_cons, not_or] at h
    obtain ⟨hk, ht⟩ := h
    unfold insert
    split
    · exact .refl _
    · next heq => exact absurd (order_eq_iff.mp heq) hk
    · exact ((ih ht).cons _).trans (.swap _ _ _)

/-- Structs with identities of their own are all held. -/
theorem perm_ofList {ss : List ParsedStruct} (h : (ss.map (·.decl.id)).Nodup) :
    (ofList ss).Perm (ss.map fun s => (s.decl.id, s)) := by
  induction ss using List.reverseRecOn with
  | nil => exact .refl _
  | append_singleton ss s ih =>
    rw [List.map_append, List.nodup_append] at h
    obtain ⟨hss, -, hnew⟩ := h
    have hfresh : s.decl.id ∉ (ofList ss).map Prod.fst := by
      rw [mem_keys_ofList_iff]
      intro hmem
      exact hnew _ hmem _ (List.mem_singleton.mpr rfl) rfl
    rw [ofList_append_singleton, List.map_append]
    exact ((perm_insert hfresh).trans ((ih hss).cons _)).trans (List.perm_append_singleton _ _).symm

/-- The table of structs with identities of their own does not depend on their order. -/
theorem ofList_eq_of_perm {ss ss' : List ParsedStruct} (h : (ss.map (·.decl.id)).Nodup)
    (hperm : ss.Perm ss') : ofList ss = ofList ss' := by
  have h' : (ss'.map (·.decl.id)).Nodup := (hperm.map _).nodup_iff.mp h
  have htables : (ofList ss).Perm (ofList ss') :=
    (perm_ofList h).trans ((hperm.map _).trans (perm_ofList h').symm)
  -- in strict order there is only one way to list what both hold
  refine htables.eq_of_pairwise ?_ (isSorted_ofList ss) (isSorted_ofList ss')
  intro a b _ _ hab hba
  exact absurd (order_trans hab hba) (order_ne_lt _)

end StructTable

end GoStructs
