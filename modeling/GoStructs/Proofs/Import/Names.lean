import GoStructs.Import.Resolve
import GoStructs.Proofs.World.Visits
import Mathlib.Algebra.GroupWithZero.Nat
/-! # Names in import paths

The rules make import paths of the names in a path, with slashes between.  How long these texts are
tells the names apart that a detour adds: with a detour there are more names than without it.

## Main statements

* `Path.namesLength_lt_of_direct`: behind a common beginning there are fewer names without detours.
* `Path.slashed_ne`, `Import.underModule_ne`: an import path tells how long its names are. -/

namespace GoStructs

namespace Path

/-- The length of some names with a slash behind each. -/
def namesLength (cs : List Component) : Nat := ((names cs).map fun s => s.length + 1).sum

@[simp] theorem names_name (s : String) (cs : List Component) :
    names (.name s :: cs) = s :: names cs := rfl

@[simp] theorem namesLength_name (s : String) (cs : List Component) :
    namesLength (.name s :: cs) = s.length + 1 + namesLength cs := by
  simp [namesLength]

@[simp] theorem namesLength_up (cs : List Component) : namesLength (.up :: cs) = namesLength cs :=
  rfl

theorem namesLength_append (cs ds : List Component) :
    namesLength (cs ++ ds) = namesLength cs + namesLength ds := by
  simp [namesLength, names]

/-- Either there is no detour, or there are fewer names without it. -/
theorem direct_eq_or_lt (cs : List Component) :
    direct cs = cs ∨ namesLength (direct cs) < namesLength cs := by
  induction cs with
  | nil => exact .inl rfl
  | cons c cs ih =>
    obtain ⟨s, rest, rfl, hup, h⟩ | h := direct_cons c cs
    · right
      have hle : namesLength (direct cs) ≤ namesLength cs := by
        rcases ih with heq | hlt
        · rw [heq]
        · exact hlt.le
      rw [hup, namesLength_up] at hle
      rw [h, namesLength_name]
      omega
    · rw [h]
      rcases ih with heq | hlt
      · left
        rw [heq]
      · right
        have hleft := namesLength_append [c] (direct cs)
        have hright := namesLength_append [c] cs
        simp only [List.singleton_append] at hleft hright
        omega

/-- Behind a beginning that stays, nothing changes without the detours, or there are fewer names. -/
theorem namesLength_lt_of_direct {b rel rel' : List Component}
    (h : direct (b ++ rel) = b ++ rel') :
    rel' = rel ∨ namesLength rel' < namesLength rel := by
  rcases direct_eq_or_lt (b ++ rel) with heq | hlt
  · left
    rw [heq] at h
    exact (List.append_cancel_left h).symm
  · right
    rw [h, namesLength_append, namesLength_append] at hlt
    omega

/-- What tells apart how long the names are shows each detour behind a beginning that stays. -/
theorem eq_iff_of_direct {α : Type} {f : List Component → α} {b rel rel' : List Component}
    (hf : ∀ {cs}, namesLength cs < namesLength rel → f cs ≠ f rel)
    (h : direct (b ++ rel) = b ++ rel') : f rel' = f rel ↔ rel' = rel := by
  constructor
  · intro heq
    rcases namesLength_lt_of_direct h with hsame | hlt
    · exact hsame
    · exact absurd heq (hf hlt)
  · intro heq
    rw [heq]

/-- A name that is written is not empty. -/
theorem IsWritten.exists_char {s : String} (h : IsWritten (.name s)) :
    ∃ c ∈ s.toList, c ≠ '/' := by
  cases hs : s.toList with
  | nil =>
    have hcomponent : innerComponent? s.toList = some (.name s) := h.component
    rw [hs] at hcomponent
    cases hcomponent
  | cons c rest =>
    refine ⟨c, List.mem_cons_self, ?_⟩
    rintro rfl
    have hslash : '/' ∉ s.toList := h.slash
    rw [hs] at hslash
    exact hslash List.mem_cons_self

theorem IsWritten.ne_empty {s : String} (h : IsWritten (.name s)) : s ≠ "" := by
  obtain ⟨c, hc, -⟩ := h.exists_char
  rintro rfl
  cases hc

/-- Only the empty path has no components. -/
theorem text_eq_of_components_eq_nil {p : Path} (h : p.components = []) : p.text = "" := by
  by_cases habs : p.isAbsolute
  · rw [components_of_isAbsolute habs] at h
    cases h
  · have hrel := Bool.eq_false_iff.mpr habs
    obtain ⟨first, rest, hparts⟩ := List.exists_cons_of_ne_nil (parts_ne_nil p)
    have hfirst : firstComponent? first = none := by
      simp only [components, hparts, if_neg habs, List.append_eq_nil_iff,
        Option.toList_eq_nil_iff] at h
      exact h.1
    obtain rfl : first = [] := by
      unfold firstComponent? at hfirst
      split at hfirst
      · cases hfirst
      · next hdot => exact (innerComponent?_eq_none_iff.mp hfirst).resolve_right hdot
    have htext := intercalate_parts p
    rw [hparts, (parts_of_not_isAbsolute hrel hparts).2 rfl] at htext
    exact String.toList_inj.mp htext.symm

/-! ## Texts of steps -/

theorem toList_slashed (cs : List Component) :
    (slashed cs).toList = ['/'].intercalate ((names cs).map String.toList) := by
  rw [slashed, String.toList_intercalate]
  rfl

/-- Between the names there are slashes, but none behind the last. -/
theorem length_slashed (cs : List Component) :
    (slashed cs).length = namesLength cs - 1 := by
  rw [← String.length_toList, toList_slashed, namesLength]
  induction names cs with
  | nil => rfl
  | cons s names ih =>
    cases names with
    | nil => simp [List.intercalate, String.length_toList]
    | cons t names =>
      rw [List.map_cons, List.map_cons, List.intercalate_cons_cons, List.length_append,
        List.length_append, ← List.map_cons, ih]
      simp only [List.map_cons, List.sum_cons, String.length_toList, List.length_singleton]
      omega

/-- Where there is a name, the text is more than slashes. -/
theorem exists_mem_slashed {cs : List Component} (h : ∀ c ∈ cs, IsWritten c)
    (hne : namesLength cs ≠ 0) : ∃ c ∈ (slashed cs).toList, c ≠ '/' := by
  cases hnames : names cs with
  | nil => simp [namesLength, hnames] at hne
  | cons s rest =>
    have hs : .name s ∈ cs := by
      have hmem : s ∈ names cs := by simp [hnames]
      obtain ⟨c, hc, heq⟩ := List.mem_filterMap.mp hmem
      cases c <;> simp at heq
      rw [← heq]
      exact hc
    obtain ⟨c, hc, hslash⟩ := (h _ hs).exists_char
    refine ⟨c, ?_, hslash⟩
    rw [toList_slashed, hnames]
    cases rest with
    | nil => simpa [List.intercalate] using hc
    | cons t rest =>
      rw [List.map_cons, List.map_cons, List.intercalate_cons_cons]
      simp [hc]

/-- The text of some steps tells how long the names among them are. -/
theorem slashed_ne {cs ds : List Component} (h : ∀ d ∈ ds, IsWritten d)
    (hlt : namesLength cs < namesLength ds) : slashed cs ≠ slashed ds := by
  intro heq
  have hcs := length_slashed cs
  have hds := length_slashed ds
  obtain ⟨ch, hch, -⟩ := exists_mem_slashed h (by omega)
  have hpos : (slashed ds).length ≠ 0 := by
    intro hzero
    simp [String.length_eq_zero_iff.mp hzero] at hch
  rw [heq] at hcs
  omega

/-- Without the detours behind a beginning that stays, the text of the steps is the same just if
there are none. -/
theorem slashed_direct_iff {b rel rel' : List Component} (h : ∀ c ∈ rel, IsWritten c)
    (hdirect : direct (b ++ rel) = b ++ rel') : slashed rel' = slashed rel ↔ rel' = rel :=
  eq_iff_of_direct (slashed_ne h) hdirect

end Path

open GoStructs.Path (Component direct IsWritten)

namespace Import

/-- An import path tells how long the names below the module are. -/
theorem underModule_ne (m : String) {cs ds : List Component} (h : ∀ d ∈ ds, IsWritten d)
    (hlt : Path.namesLength cs < Path.namesLength ds) : underModule m cs ≠ underModule m ds := by
  have hcs := Path.length_slashed cs
  have hds := Path.length_slashed ds
  obtain ⟨ch, hch, hslash⟩ := Path.exists_mem_slashed h (by omega)
  have hne : (Path.slashed ds).isEmpty = false := by
    rw [Bool.eq_false_iff, ne_eq, String.isEmpty_iff]
    intro hnil
    simp [hnil] at hch
  unfold underModule
  simp only [hne, Bool.false_eq_true, if_false]
  split
  · intro heq
    -- then the module path would end in what is no slash, though its slashes are taken away
    have hm := List.takeWhile_append_dropWhile (p := (· == '/')) (l := m.toList.reverse)
    have hrest := congrArg (fun s => s.toList.reverse) heq
    simp only [withoutSlashes, String.toList_append, List.reverse_append, String.toList_ofList,
      List.reverse_reverse, ← List.append_assoc] at hrest
    have hslashes := List.append_cancel_right (hm.trans hrest)
    have hmem : ch ∈ m.toList.reverse.takeWhile (· == '/') := by
      rw [hslashes]
      exact List.mem_append_left _ (List.mem_reverse.mpr hch)
    have heq := List.mem_takeWhile_imp (p := (· == '/')) hmem
    exact hslash (eq_of_beq heq)
  · next hnil =>
    intro heq
    have hslashed := String.append_right_inj _ |>.mp heq
    have hpos : (Path.slashed cs).length ≠ 0 := by
      intro hzero
      exact hnil (String.isEmpty_iff.mpr (String.length_eq_zero_iff.mp hzero))
    rw [← hslashed] at hds
    omega

/-- Without the detours behind a beginning that stays, the import path below a module is the same
just if there are none. -/
theorem underModule_direct_iff (m : String) {b rel rel' : List Component}
    (h : ∀ c ∈ rel, IsWritten c) (hdirect : direct (b ++ rel) = b ++ rel') :
    underModule m rel' = underModule m rel ↔ rel' = rel :=
  Path.eq_iff_of_direct (underModule_ne m h) hdirect

end Import

end GoStructs
