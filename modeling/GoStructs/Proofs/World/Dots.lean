import GoStructs.Proofs.World.Walks
/-! # Dots

A part `.` leads nowhere, so a path may be made as long as one likes without leading elsewhere.
Only a path that gets too long leads nowhere at all.

## Main statements

* `readText_behindDots`: through the dots the same file is read.
* `size_join_of_mem_ancestors`: the dots stay in the paths above, as long as these are below the
  directory that the dots stand behind. -/

namespace GoStructs

variable {w : World} {n : Nat} {p : Path}

/-- A path behind some detours to where one is. -/
def behindDots (n : Nat) (p : Path) : Path :=
  ⟨String.ofList ((List.replicate n ['.', '/']).flatten ++ p.text.toList)⟩

theorem parts_behindDots : (behindDots n p).parts = List.replicate n ['.'] ++ p.parts := by
  have hdot : ['.'].splitOn '/' = [['.']] := by decide
  unfold behindDots Path.parts
  rw [String.toList_ofList]
  induction n with
  | zero => rfl
  | succ n ih =>
    have hcons : (List.replicate (n + 1) ['.', '/']).flatten ++ p.text.toList
        = ['.'] ++ '/' :: ((List.replicate n ['.', '/']).flatten ++ p.text.toList) := by
      simp [List.replicate_succ]
    rw [hcons, List.splitOn_append_cons_self, ih, hdot, List.replicate_succ]
    rfl

theorem size_behindDots (n : Nat) (p : Path) :
    (behindDots n p).text.utf8ByteSize = 2 * n + p.text.utf8ByteSize := by
  have hp : String.utf8Len p.text.toList = p.text.utf8ByteSize := by
    rw [← String.utf8ByteSize_ofList, String.ofList_toList]
  unfold behindDots
  rw [String.utf8ByteSize_ofList, String.utf8Len_append, hp]
  congr 1
  induction n with
  | zero => rfl
  | succ n ih =>
    have hdot : Char.utf8Size '.' = 1 := by decide
    have hslash : Char.utf8Size '/' = 1 := by decide
    rw [List.replicate_succ, List.flatten_cons, String.utf8Len_append]
    simp only [String.utf8Len_cons, String.utf8Len_nil, hdot, hslash]
    omega

theorem isAbsolute_behindDots (h : p.isAbsolute = false) :
    (behindDots n p).isAbsolute = false := by
  unfold behindDots Path.isAbsolute
  rw [String.toList_ofList]
  cases n with
  | zero => exact h
  | succ n => simp [List.replicate_succ]

theorem steps_behindDots : (behindDots n p).steps = p.steps := by
  have hdot : Path.innerComponent? ['.'] = none := rfl
  rw [Path.steps, parts_behindDots, List.filterMap_append,
    List.filterMap_replicate_of_none hdot, List.nil_append]
  rfl

/-- The dots lead nowhere. -/
theorem readText_behindDots (hp : p.isAbsolute = false) (hne : p.text ≠ "")
    (hlast : ∀ part ∈ p.parts.getLast?, Path.isStep part)
    (h : (behindDots n p).text.utf8ByteSize < World.pathLimit) :
    w.readText (behindDots n p) = w.readText p := by
  have hsize := size_behindDots n p
  have hstart : w.startOf (behindDots n p) = w.startOf p := by
    rw [World.startOf, World.startOf, isAbsolute_behindDots hp, hp]
  have hne' : (behindDots n p).text ≠ "" := by
    intro hnil
    have hp : p.text.utf8ByteSize = 0 := by
      rw [hnil] at hsize
      have hempty : "".utf8ByteSize = 0 := rfl
      omega
    exact hne (String.utf8ByteSize_eq_zero_iff.mp hp)
  apply World.readText_same
  refine World.resolve_of_steps_eq hstart steps_behindDots hne' hne h (by omega) ?_ hlast
  rw [parts_behindDots, List.getLast?_append, List.getLast?_eq_some_getLast (Path.parts_ne_nil p)]
  simpa [List.getLast?_eq_some_getLast (Path.parts_ne_nil p)] using hlast

/-! ## Above a path behind dots -/

variable {cwd d a name : Path}

/-- The directory of a path behind dots, as it is seen from the root. -/
theorem exists_parent_behindDots (hcwd : w.currentPath? = some cwd) (hp : p.isAbsolute = false)
    (hne : p.steps ≠ []) :
    ∃ d, (behindDots n p).parent? = some d ∧ (w.absolute d).isAbsolute
      ∧ (w.absolute d).steps = cwd.steps ++ p.steps.dropLast
      ∧ (w.absolute d).text.toList <+: (cwd.join (behindDots n p)).text.toList := by
  have hrel : (behindDots n p).isAbsolute = false := isAbsolute_behindDots hp
  obtain ⟨d, hd, hsteps, habs, hprefix⟩ :=
    Path.exists_parent (p := behindDots n p) (by rw [steps_behindDots]; exact hne)
  have hdrel := habs.trans hrel
  refine ⟨d, hd, World.isAbsolute_absolute hcwd d, ?_, ?_⟩
  · rw [World.absolute_of_currentPath? hcwd hdrel, Path.steps_join hdrel, hsteps, steps_behindDots]
  · rw [World.absolute_of_currentPath? hcwd hdrel]
    exact Path.join_prefix hdrel hrel hprefix

/-- Going up, the dots stay until the directory is reached that they stand behind. -/
theorem size_join_of_mem_ancestors (hp : p.isAbsolute = false) (hname : name.isAbsolute = false)
    (habs : d.isAbsolute) (hd : d.text.toList <+: (cwd.join (behindDots n p)).text.toList)
    (ha : a ∈ d.ancestors) (hlength : cwd.steps.length < a.steps.length) :
    cwd.text.utf8ByteSize + 2 * n + name.text.utf8ByteSize
      ≤ (a.join name).text.utf8ByteSize := by
  have hastart := (Path.isAbsolute_of_mem_ancestors habs ha).2
  have hdots : (behindDots n ⟨""⟩).isAbsolute = false := isAbsolute_behindDots (by decide +kernel)
  have hrel : (behindDots n p).isAbsolute = false := isAbsolute_behindDots hp
  have hpre : (behindDots n ⟨""⟩).text.toList <+: (behindDots n p).text.toList := by
    simp [behindDots]
  have hfront : (cwd.join (behindDots n ⟨""⟩)).text.toList <+: a.text.toList := by
    rcases List.prefix_or_prefix_of_prefix (Path.join_prefix hdots hrel hpre)
      (hastart.trans hd) with h | h
    · exact h
    · -- a path that ends before the dots do has no steps of its own
      have hle := Path.length_steps_le_of_prefix h
      have hnone : (⟨""⟩ : Path).steps = [] := rfl
      rw [Path.steps_join hdots, steps_behindDots, hnone, List.append_nil] at hle
      omega
  have hsize := Path.size_join_le_of_prefix hfront hname
  have hfrontsize := (Path.size_join (p := cwd) hdots).1
  have hnamesize := (Path.size_join (p := cwd.join (behindDots n ⟨""⟩)) hname).1
  have hdotssize := size_behindDots n ⟨""⟩
  have hempty : "".utf8ByteSize = 0 := rfl
  omega

end GoStructs
