import GoStructs.World.Path
import GoStructs.Proofs.Text.Splitting
import Mathlib.Data.List.Forall2
import Mathlib.Data.List.Infix
import Mathlib.Data.List.TakeWhile
import Mathlib.Data.String.Basic
/-! # Steps of paths

The components of a path, apart from the slash or the `.` that it begins with, are steps from one
directory to the next.  Joining two paths puts their steps one behind the other, and the parent of
a path has all steps but the last.  So the ancestors of an absolute path are as many as the
beginnings of its steps, however the path is spelled.

## Main statements

* `steps_join`: the steps of a joined path.
* `exists_parent`: a path with steps has a parent, which has all of them but the last.
* `steps_ancestors`: the ancestors of an absolute path go up step by step to the root.
* `exists_ancestor`: there is an ancestor for each beginning of the steps.
* `components_prefix_of_mem_ancestors`: any path begins with each of its ancestors.
* `Same.ancestors`: two spellings of a path have the same ancestors, but for the spelling. -/

namespace GoStructs.Path

open Text (intercalate_cons intercalate_prefix not_mem_of_mem_splitOn)

/-! ## Parts -/

theorem parts_ne_nil (p : Path) : p.parts ≠ [] := List.splitOn_ne_nil _ _

theorem intercalate_parts (p : Path) : ['/'].intercalate p.parts = p.text.toList :=
  List.intercalate_splitOn _

/-- The text that is made of some parts has these parts. -/
theorem parts_ofParts {parts : List (List Char)} (hne : parts ≠ [])
    (h : ∀ part ∈ parts, '/' ∉ part) :
    (⟨String.ofList (['/'].intercalate parts)⟩ : Path).parts = parts := by
  unfold Path.parts
  rw [String.toList_ofList, List.splitOn_intercalate _ h hne]

/-! ## Steps -/

/-- The components of a path that lead from one directory to the next. -/
def steps (p : Path) : List Component := p.parts.filterMap innerComponent?

/-- A part that is a step says all of it. -/
def spelled : Component → List Char
  | .name s => s.toList
  | .up => ['.', '.']
  | .root => []
  | .here => []

theorem innerComponent?_eq_none_iff {part : List Char} :
    innerComponent? part = none ↔ part = [] ∨ part = ['.'] := by
  unfold innerComponent?
  split <;> simp_all

theorem spelled_of_innerComponent? {part : List Char} {c : Component}
    (h : innerComponent? part = some c) : spelled c = part := by
  unfold innerComponent? at h
  split at h
  · cases h
  · cases h
  · cases h
    rfl
  · cases h
    exact String.toList_ofList

theorem isAbsolute_iff {p : Path} : p.isAbsolute ↔ ∃ s, p.text.toList = '/' :: s := by
  unfold isAbsolute
  cases p.text.toList <;> simp

theorem text_ne_of_isAbsolute {p : Path} (h : p.isAbsolute) : p.text ≠ "" := by
  rintro htext
  simp [isAbsolute, htext] at h

/-- The first part of an absolute path is empty. -/
theorem parts_of_isAbsolute {p : Path} (h : p.isAbsolute) : ∃ rest, p.parts = [] :: rest := by
  obtain ⟨s, hs⟩ := isAbsolute_iff.mp h
  exact ⟨s.splitOn '/', by simp [parts, hs, List.splitOn_cons_eq_if_modifyHead]⟩

/-- The first part of a relative path is empty only if the path is. -/
theorem parts_of_not_isAbsolute {p : Path} (h : p.isAbsolute = false) {first : List Char}
    {rest : List (List Char)} (hparts : p.parts = first :: rest) :
    first.head? ≠ some '/' ∧ (first = [] → rest = []) := by
  have hslash : '/' ∉ first :=
    not_mem_of_mem_splitOn (by rw [show p.text.toList.splitOn '/' = _ from hparts]; simp)
  refine ⟨fun hhead => hslash (List.mem_of_head? hhead), ?_⟩
  rintro rfl
  by_contra hrest
  have htext := intercalate_parts p
  rw [hparts, intercalate_cons [] hrest] at htext
  simp [isAbsolute, ← htext] at h

theorem components_of_isAbsolute {p : Path} (h : p.isAbsolute) :
    p.components = .root :: p.steps := by
  obtain ⟨rest, hparts⟩ := parts_of_isAbsolute h
  have hfirst : innerComponent? [] = none := rfl
  simp [components, steps, hparts, h, List.filterMap_cons_none hfirst]

/-- Components that begin at the root are those of an absolute path. -/
theorem isAbsolute_of_components {p : Path} {cs : List Component}
    (h : p.components = .root :: cs) : p.isAbsolute ∧ p.steps = cs := by
  by_cases habs : p.isAbsolute
  · rw [components_of_isAbsolute habs] at h
    exact ⟨habs, (List.cons.inj h).2⟩
  · -- no part of a relative path says that it begins at the root
    have hinner : ∀ part, innerComponent? part ≠ some .root := by
      intro part hpart
      unfold innerComponent? at hpart
      split at hpart <;> cases hpart
    have hfirst : ∀ part, firstComponent? part ≠ some .root := by
      intro part hpart
      unfold firstComponent? at hpart
      split at hpart
      · cases hpart
      · exact hinner part hpart
    have hmem : Component.root ∈ p.components := h ▸ List.mem_cons_self
    obtain ⟨first, rest, hparts⟩ := List.exists_cons_of_ne_nil (parts_ne_nil p)
    simp only [components, hparts, if_neg habs, List.mem_append, Option.mem_toList,
      List.mem_filterMap] at hmem
    rcases hmem with hmem | ⟨part, -, hmem⟩
    · exact absurd hmem (hfirst first)
    · exact absurd hmem (hinner part)

/-! ## Joined paths -/

theorem isAbsolute_join {p q : Path} (hp : p.isAbsolute) (hq : q.isAbsolute = false) :
    (p.join q).isAbsolute := by
  obtain ⟨s, hs⟩ := isAbsolute_iff.mp hp
  rw [isAbsolute_iff]
  unfold join
  rw [hq]
  split
  · contradiction
  · split <;> simp [String.toList_append, hs]

/-- A relative path with another one behind it is relative. -/
theorem isAbsolute_join_eq_false {p q : Path} (hp : p.isAbsolute = false)
    (hq : q.isAbsolute = false) : (p.join q).isAbsolute = false := by
  by_cases hempty : p.text = ""
  · have hjoin : p.join q = q := by simp [join, hq, hempty]
    rw [hjoin]
    exact hq
  · -- what the joined path begins with is the beginning of the first
    have hne : p.text.toList ≠ [] := fun hnil => hempty (String.toList_eq_nil_iff.mp hnil)
    obtain ⟨c, r, hchars⟩ := List.exists_cons_of_ne_nil hne
    unfold isAbsolute at hp hq ⊢
    unfold join
    rw [hchars] at hp
    split
    · exact hq
    · split <;> simpa [String.toList_append, hchars] using hp

/-- Behind a path that is not empty, the parts of a joined path are those of the other, and in
front of them nothing but the parts of the first that are steps counts. -/
theorem parts_join {p q : Path} (hp : p.text ≠ "") (hq : q.isAbsolute = false) :
    ∃ front, (p.join q).parts = front ++ q.parts
      ∧ front.filterMap innerComponent? = p.steps := by
  have hempty : p.text.isEmpty = false := by
    rw [Bool.eq_false_iff]
    exact fun h => hp (String.isEmpty_iff.mp h)
  unfold join
  rw [hq, hempty]
  simp only [Bool.false_eq_true, if_false, Bool.false_or]
  split
  · next hlast =>
    -- the slash that joins the two is there already
    obtain ⟨s, hs⟩ : ∃ s, p.text.toList = s ++ ['/'] := by
      obtain ⟨s, hs⟩ := List.getLast?_eq_some_iff.mp (eq_of_beq hlast)
      exact ⟨s, hs⟩
    refine ⟨s.splitOn '/', ?_, ?_⟩
    · simp [parts, String.toList_append, hs, List.splitOn_append_cons_self]
    · have hparts : p.parts = s.splitOn '/' ++ [[]] := by
        simp [parts, hs, List.splitOn_append_cons_self]
      simp [steps, hparts, innerComponent?]
  · refine ⟨p.parts, ?_, rfl⟩
    have hslash : "/".toList = ['/'] := rfl
    simp [parts, String.toList_append, hslash, List.splitOn_append_cons_self]

theorem steps_join {p q : Path} (hq : q.isAbsolute = false) :
    (p.join q).steps = p.steps ++ q.steps := by
  by_cases hp : p.text = ""
  · have hjoin : p.join q = q := by simp [join, hq, hp]
    have hnone : p.steps = [] := by simp [steps, parts, hp, innerComponent?]
    rw [hjoin, hnone, List.nil_append]
  · obtain ⟨front, hparts, hfront⟩ := parts_join hp hq
    rw [steps, hparts, List.filterMap_append, hfront]
    rfl

/-- A joined path ends as the second path does. -/
theorem getLast?_parts_join {p q : Path} (hq : q.isAbsolute = false) :
    (p.join q).parts.getLast? = q.parts.getLast? := by
  by_cases hp : p.text = ""
  · simp [join, hq, hp]
  · obtain ⟨front, hparts, -⟩ := parts_join hp hq
    rw [hparts, List.getLast?_append, List.getLast?_eq_some_getLast (parts_ne_nil q)]
    rfl

/-- Between two paths that are joined there is at most a slash. -/
theorem size_join {p q : Path} (hq : q.isAbsolute = false) :
    p.text.utf8ByteSize + q.text.utf8ByteSize ≤ (p.join q).text.utf8ByteSize
      ∧ (p.join q).text.utf8ByteSize ≤ p.text.utf8ByteSize + 1 + q.text.utf8ByteSize := by
  have hslash : "/".utf8ByteSize = 1 := rfl
  unfold join
  rw [hq, if_neg Bool.false_ne_true]
  split
  · simp only [String.utf8ByteSize_append]
    omega
  · simp only [String.utf8ByteSize_append, hslash]
    omega

/-- What is no slash stands in a joined path if it stands in one of the two. -/
theorem mem_join_iff {p q : Path} {c : Char} (hc : c ≠ '/') (hq : q.isAbsolute = false) :
    c ∈ (p.join q).text.toList ↔ c ∈ p.text.toList ∨ c ∈ q.text.toList := by
  have hslash : "/".toList = ['/'] := rfl
  unfold join
  rw [hq, if_neg Bool.false_ne_true]
  split
  · simp [String.toList_append]
  · simp [String.toList_append, hslash, hc]

/-- The longer the beginning that is taken of a path, the longer is what another path begins with
when it is joined with it. -/
theorem join_prefix {p q r : Path} (hq : q.isAbsolute = false) (hr : r.isAbsolute = false)
    (h : q.text.toList <+: r.text.toList) :
    (p.join q).text.toList <+: (p.join r).text.toList := by
  unfold join
  rw [hq, hr, if_neg Bool.false_ne_true, if_neg Bool.false_ne_true]
  split
  · simpa [String.toList_append] using h
  · simpa [String.toList_append] using h

/-- Two names behind a path differ in length as they do by themselves. -/
theorem size_join_add {p q r : Path} (hq : q.isAbsolute = false) (hr : r.isAbsolute = false) :
    (p.join q).text.utf8ByteSize + r.text.utf8ByteSize
      = (p.join r).text.utf8ByteSize + q.text.utf8ByteSize := by
  unfold join
  rw [hq, hr, if_neg Bool.false_ne_true, if_neg Bool.false_ne_true]
  split
  · simp only [String.utf8ByteSize_append]
    omega
  · simp only [String.utf8ByteSize_append]
    omega

theorem size_le_join {p q : Path} (hq : q.isAbsolute = false) :
    q.text.utf8ByteSize ≤ (p.join q).text.utf8ByteSize := by
  have := (size_join (p := p) hq).1
  omega

/-- The longer the beginning that is taken of a path, the longer the path with a name behind it. -/
theorem size_join_le_of_prefix {p q name : Path} (h : p.text.toList <+: q.text.toList)
    (hname : name.isAbsolute = false) :
    (p.join name).text.utf8ByteSize ≤ (q.join name).text.utf8ByteSize := by
  obtain ⟨rest, hrest⟩ := h
  cases rest with
  | nil =>
    have htext : p.text = q.text := String.toList_injective (by simpa using hrest)
    have heq : p = q := congrArg Path.mk htext
    rw [heq]
  | cons c rest =>
    -- then the slash takes no more than what is left out
    have hq : p.text.utf8ByteSize + 1 ≤ q.text.utf8ByteSize := by
      have hc := Char.utf8Size_pos c
      rw [← String.ofList_toList (s := p.text), ← String.ofList_toList (s := q.text), ← hrest,
        String.utf8ByteSize_ofList, String.utf8ByteSize_ofList, String.utf8Len_append,
        String.utf8Len_cons]
      omega
    have hp := (size_join (p := p) hname).2
    have hjoin := (size_join (p := q) hname).1
    omega

/-! ## Parents -/

/-- A part that is a step. -/
def isStep (part : List Char) : Bool := (innerComponent? part).isSome

theorem isStep_eq_false_iff {part : List Char} :
    isStep part = false ↔ innerComponent? part = none := by
  simp [isStep]

/-- Parts that are no steps do not count at the beginning of a list. -/
theorem filterMap_dropWhile (parts : List (List Char)) :
    (parts.dropWhile (!isStep ·)).filterMap innerComponent? = parts.filterMap innerComponent? := by
  induction parts with
  | nil => rfl
  | cons part parts ih =>
    cases h : isStep part with
    | true => simp [h]
    | false => simp [h, ih, List.filterMap_cons_none (isStep_eq_false_iff.mp h)]

/-- The parts that are kept when the last component is taken away. -/
def keptParts (parts : List (List Char)) : List (List Char) :=
  (dropComponent isStep parts.reverse).reverse

/-- What is taken away is the last step and what is no step around it. -/
theorem exists_of_any_isStep {parts : List (List Char)} (h : parts.any isStep) :
    ∃ front step back, parts = front ++ step :: back ∧ isStep step
      ∧ back.filterMap innerComponent? = []
      ∧ (keptParts parts).reverse = front.reverse.dropWhile (!isStep ·) := by
  have hsplit := List.takeWhile_append_dropWhile (p := (!isStep ·)) (l := parts.reverse)
  have hback : (parts.reverse.takeWhile (!isStep ·)).filterMap innerComponent? = [] := by
    rw [List.filterMap_eq_nil_iff]
    intro part hpart
    have := List.all_eq_true.mp List.all_takeWhile part hpart
    exact isStep_eq_false_iff.mp (by simpa using this)
  cases hdrop : parts.reverse.dropWhile (!isStep ·) with
  | nil =>
    -- then there would be no step at all
    obtain ⟨part, hpart, hstep⟩ := List.any_eq_true.mp h
    have := List.dropWhile_eq_nil_iff.mp hdrop part (List.mem_reverse.mpr hpart)
    simp [hstep] at this
  | cons step front =>
    refine ⟨front.reverse, step, (parts.reverse.takeWhile (!isStep ·)).reverse, ?_, ?_, ?_, ?_⟩
    · rw [hdrop] at hsplit
      have hreverse := congrArg List.reverse hsplit
      simpa using hreverse.symm
    · have hhead := List.head?_dropWhile_not (!isStep ·) parts.reverse
      simpa [hdrop] using hhead
    · rw [List.filterMap_reverse, hback, List.reverse_nil]
    · simp [keptParts, dropComponent, hdrop]

theorem keptParts_prefix {parts : List (List Char)} (h : parts.any isStep) :
    keptParts parts <+: parts := by
  obtain ⟨front, step, back, hparts, -, -, hkept⟩ := exists_of_any_isStep h
  have hsuffix : (keptParts parts).reverse <:+ front.reverse := hkept ▸ List.dropWhile_suffix _
  rw [List.reverse_suffix] at hsuffix
  exact hsuffix.trans (hparts ▸ List.prefix_append front _)

theorem filterMap_keptParts {parts : List (List Char)} (h : parts.any isStep) :
    (keptParts parts).filterMap innerComponent?
      = (parts.filterMap innerComponent?).dropLast := by
  obtain ⟨front, step, back, hparts, hstep, hback, hkept⟩ := exists_of_any_isStep h
  obtain ⟨c, hc⟩ := Option.isSome_iff_exists.mp hstep
  have hfront : (keptParts parts).filterMap innerComponent? = front.filterMap innerComponent? := by
    rw [← List.reverse_reverse (keptParts parts), hkept, List.filterMap_reverse,
      filterMap_dropWhile, ← List.filterMap_reverse, List.reverse_reverse]
  rw [hfront, hparts, List.filterMap_append, List.filterMap_cons_some hc, hback]
  simp

/-- What is kept ends in a step. -/
theorem isStep_getLast_keptParts {parts : List (List Char)} (h : parts.any isStep)
    {part : List Char} (hlast : (keptParts parts).getLast? = some part) : isStep part := by
  obtain ⟨front, -, -, -, -, -, hkept⟩ := exists_of_any_isStep h
  rw [← List.head?_reverse, hkept] at hlast
  have hhead := List.head?_dropWhile_not (!isStep ·) front.reverse
  simpa [hlast] using hhead

theorem any_isStep_of_filterMap_ne_nil {parts : List (List Char)}
    (h : parts.filterMap innerComponent? ≠ []) : parts.any isStep := by
  by_contra hany
  apply h
  rw [List.filterMap_eq_nil_iff]
  intro part hpart
  apply isStep_eq_false_iff.mp
  rw [Bool.eq_false_iff]
  exact fun hstep => hany (List.any_eq_true.mpr ⟨part, hpart, hstep⟩)

/-- The parent of an absolute path. -/
theorem parent?_of_isAbsolute {p : Path} (habs : p.isAbsolute) {rest : List (List Char)}
    (hparts : p.parts = [] :: rest) :
    p.parent? = if rest.any isStep then some ⟨String.ofList ('/' :: ['/'].intercalate (keptParts rest))⟩
      else none := by
  have hcounts : (fun part => (innerComponent? part).isSome) = isStep := rfl
  unfold parent?
  simp only [hparts, habs, if_true, hcounts]
  split
  · cases hkept : dropComponent isStep rest.reverse with
    | nil =>
      have hnil : keptParts rest = [] := by simp [keptParts, hkept]
      rw [hnil]
      rfl
    | cons part parts =>
      have hcons : keptParts rest = (part :: parts).reverse := by simp [keptParts, hkept]
      have hne : (part :: parts).reverse ≠ [] := by simp
      simp only [hcons, intercalate_cons [] hne, List.nil_append]
  · rfl

/-- The parent of a relative path. -/
theorem parent?_of_not_isAbsolute {p : Path} (habs : p.isAbsolute = false) {first : List Char}
    {rest : List (List Char)} (hparts : p.parts = first :: rest) :
    p.parent? = if rest.any isStep then
        some ⟨String.ofList (['/'].intercalate (first :: keptParts rest))⟩
      else if first = [] then none else some ⟨""⟩ := by
  have hcounts : (fun part => (innerComponent? part).isSome) = isStep := rfl
  have hfirst : first ≠ [] → (firstComponent? first).isSome := by
    intro hne
    unfold firstComponent?
    split
    · rfl
    · next hdot =>
      rw [Option.isSome_iff_ne_none, ne_eq, innerComponent?_eq_none_iff]
      simp [hne, hdot]
  unfold parent?
  simp only [hparts, habs, Bool.false_eq_true, if_false, hcounts]
  split
  · next hany =>
    -- a relative path of several parts does not begin with an empty one
    have hne : first ≠ [] := by
      rintro rfl
      rw [(parts_of_not_isAbsolute habs hparts).2 rfl] at hany
      simp at hany
    cases hkept : dropComponent isStep rest.reverse with
    | nil =>
      have hnil : keptParts rest = [] := by simp [keptParts, hkept]
      simp [hnil, hfirst hne, List.intercalate_singleton]
    | cons part parts =>
      have hcons : keptParts rest = (part :: parts).reverse := by simp [keptParts, hkept]
      simp only [hcons]
  · by_cases hnil : first = []
    · simp [hnil, firstComponent?, innerComponent?]
    · simp [hnil, hfirst hnil]

/-- The path with the first part of an absolute or relative path, and those of the others that are
kept with the last step taken away. -/
theorem steps_keptParts {p : Path} {first : List Char} {rest : List (List Char)}
    (hparts : p.parts = first :: rest) (hany : rest.any isStep) :
    (⟨String.ofList (['/'].intercalate (first :: keptParts rest))⟩ : Path).steps = p.steps.dropLast := by
  have hpre : first :: keptParts rest <+: first :: rest :=
    List.cons_prefix_cons.mpr ⟨rfl, keptParts_prefix hany⟩
  have hslash : ∀ part ∈ first :: keptParts rest, '/' ∉ part := by
    intro part hpart
    have hmem : part ∈ p.parts := hparts ▸ hpre.subset hpart
    exact not_mem_of_mem_splitOn hmem
  have hrest : rest.filterMap innerComponent? ≠ [] := by
    obtain ⟨part, hpart, hstep⟩ := List.any_eq_true.mp hany
    obtain ⟨c, hc⟩ := Option.isSome_iff_exists.mp hstep
    exact List.ne_nil_of_mem (List.mem_filterMap.mpr ⟨part, hpart, hc⟩)
  have hfront : ∀ parts, (first :: parts).filterMap innerComponent?
      = [first].filterMap innerComponent? ++ parts.filterMap innerComponent? :=
    fun parts => List.filterMap_append (l := [first])
  rw [steps, parts_ofParts (List.cons_ne_nil _ _) hslash, steps, hparts, hfront, hfront rest,
    filterMap_keptParts hany, List.dropLast_append_of_ne_nil hrest]

theorem exists_parent_of_isAbsolute {p : Path} (habs : p.isAbsolute) (h : p.steps ≠ []) :
    ∃ d, p.parent? = some d ∧ d.steps = p.steps.dropLast ∧ d.isAbsolute
      ∧ d.text.toList <+: p.text.toList := by
  obtain ⟨rest, hparts⟩ := parts_of_isAbsolute habs
  have hany : rest.any isStep := by
    apply any_isStep_of_filterMap_ne_nil
    simpa [steps, hparts, innerComponent?] using h
  refine ⟨⟨String.ofList ('/' :: ['/'].intercalate (keptParts rest))⟩, ?_, ?_, ?_, ?_⟩
  · rw [parent?_of_isAbsolute habs hparts, if_pos hany]
  · rw [← steps_keptParts hparts hany]
    by_cases hnil : keptParts rest = []
    · rw [hnil]
      rfl
    · rw [intercalate_cons [] hnil]
      rfl
  · simp [isAbsolute]
  · -- nothing is put in the place of what is taken away
    obtain ⟨part, hpart, -⟩ := List.any_eq_true.mp hany
    rw [← intercalate_parts p, hparts, intercalate_cons [] (List.ne_nil_of_mem hpart),
      String.toList_ofList]
    refine List.cons_prefix_cons.mpr ⟨rfl, ?_⟩
    have hkept := keptParts_prefix hany
    by_cases hnil : keptParts rest = []
    · simp [hnil]
    · exact intercalate_prefix hkept hnil

/-- The parent of a relative path that has steps behind its first part. -/
theorem exists_parent_of_any_isStep {p : Path} (habs : p.isAbsolute = false) {first : List Char}
    {rest : List (List Char)} (hparts : p.parts = first :: rest) (hany : rest.any isStep) :
    ∃ d, p.parent? = some d ∧ d.steps = p.steps.dropLast ∧ d.isAbsolute = false
      ∧ d.text.toList <+: p.text.toList := by
  have hhead := parts_of_not_isAbsolute habs hparts
  have hpre : first :: keptParts rest <+: first :: rest :=
    List.cons_prefix_cons.mpr ⟨rfl, keptParts_prefix hany⟩
  refine ⟨⟨String.ofList (['/'].intercalate (first :: keptParts rest))⟩, ?_,
    steps_keptParts hparts hany, ?_, ?_⟩
  · rw [parent?_of_not_isAbsolute habs hparts, if_pos hany]
  · have hne : first ≠ [] := by
      intro hnil
      rw [hhead.2 hnil] at hany
      cases hany
    obtain ⟨c, cs, rfl⟩ := List.exists_cons_of_ne_nil hne
    have hc : c ≠ '/' := by simpa using hhead.1
    cases hkept : keptParts rest <;> simp [isAbsolute, hc]
  · rw [String.toList_ofList, ← intercalate_parts p, hparts]
    exact intercalate_prefix hpre (List.cons_ne_nil _ _)

theorem exists_parent_of_not_isAbsolute {p : Path} (habs : p.isAbsolute = false)
    (h : p.steps ≠ []) :
    ∃ d, p.parent? = some d ∧ d.steps = p.steps.dropLast ∧ d.isAbsolute = false
      ∧ d.text.toList <+: p.text.toList := by
  obtain ⟨first, rest, hparts⟩ := List.exists_cons_of_ne_nil (parts_ne_nil p)
  by_cases hany : rest.any isStep
  · exact exists_parent_of_any_isStep habs hparts hany
  · -- the only step is the first part, so nothing is left
    have hnone : rest.filterMap innerComponent? = [] := by
      by_contra hne
      exact hany (any_isStep_of_filterMap_ne_nil hne)
    have hfirst : isStep first := by
      by_contra hstep
      apply h
      have := isStep_eq_false_iff.mp (Bool.eq_false_iff.mpr hstep)
      rw [steps, hparts, List.filterMap_cons_none this, hnone]
    have hne : first ≠ [] := by
      intro hnil
      rw [hnil] at hfirst
      cases hfirst
    obtain ⟨c, hc⟩ := Option.isSome_iff_exists.mp hfirst
    refine ⟨⟨""⟩, ?_, ?_, rfl, List.nil_prefix⟩
    · rw [parent?_of_not_isAbsolute habs hparts, if_neg hany, if_neg hne]
    · rw [steps, steps, hparts, List.filterMap_cons_some hc, hnone]
      rfl

/-- A path with steps has a parent.  It has all steps but the last, and its text is a beginning of
that of the path. -/
theorem exists_parent {p : Path} (h : p.steps ≠ []) :
    ∃ d, p.parent? = some d ∧ d.steps = p.steps.dropLast ∧ d.isAbsolute = p.isAbsolute
      ∧ d.text.toList <+: p.text.toList := by
  cases habs : p.isAbsolute with
  | true => exact exists_parent_of_isAbsolute habs h
  | false => exact exists_parent_of_not_isAbsolute habs h

/-- The root has no parent. -/
theorem parent?_eq_none {p : Path} (habs : p.isAbsolute) (h : p.steps = []) :
    p.parent? = none := by
  obtain ⟨rest, hparts⟩ := parts_of_isAbsolute habs
  rw [parent?_of_isAbsolute habs hparts, if_neg]
  intro hany
  obtain ⟨part, hpart, hstep⟩ := List.any_eq_true.mp hany
  obtain ⟨c, hc⟩ := Option.isSome_iff_exists.mp hstep
  have hmem : c ∈ p.steps := List.mem_filterMap.mpr ⟨part, by simp [hparts, hpart], hc⟩
  simp [h] at hmem

/-- Whatever is put behind a step, it remains one. -/
theorem isStep_append {part : List Char} (h : isStep part) (more : List Char) :
    isStep (part ++ more) := by
  by_contra hno
  have hnone := isStep_eq_false_iff.mp (Bool.eq_false_iff.mpr hno)
  rcases innerComponent?_eq_none_iff.mp hnone with hnil | hdot
  · obtain ⟨rfl, -⟩ := List.append_eq_nil_iff.mp hnil
    cases h
  · rcases List.append_eq_singleton_iff.mp hdot with ⟨rfl, -⟩ | ⟨rfl, -⟩
    · cases h
    · cases h

/-- A part that means the same with something behind it has nothing behind it. -/
theorem eq_nil_of_innerComponent?_append {part more : List Char} {c : Component}
    (h : innerComponent? part = some c) (h' : innerComponent? (part ++ more) = some c) :
    more = [] := by
  have hspelled := spelled_of_innerComponent? h'
  rw [spelled_of_innerComponent? h] at hspelled
  simpa using hspelled

/-- A step at the end is one more than there are in the beginning of a path. -/
theorem length_filterMap_lt (last e : List Char) {final : List Char} (hfinal : isStep final)
    (more : List (List Char)) :
    ([last].filterMap innerComponent?).length
      < (((last ++ e) :: (more ++ [final])).filterMap innerComponent?).length := by
  obtain ⟨c, hc⟩ := Option.isSome_iff_exists.mp hfinal
  have hmore : ((more ++ [final]).filterMap innerComponent?).length
      = (more.filterMap innerComponent?).length + 1 := by
    rw [List.filterMap_append, List.filterMap_cons_some hc]
    simp
  by_cases hstep : isStep last
  · obtain ⟨c', hc'⟩ := Option.isSome_iff_exists.mp hstep
    obtain ⟨c'', hc''⟩ := Option.isSome_iff_exists.mp (isStep_append hstep e)
    rw [List.filterMap_cons_some hc', List.filterMap_cons_some hc'', List.length_cons,
      List.length_cons, hmore]
    simp
  · have hnone := isStep_eq_false_iff.mp (Bool.eq_false_iff.mpr hstep)
    have hle := (List.sublist_cons_self (last ++ e) (more ++ [final])).filterMap innerComponent?
    have hlength := hle.length_le
    rw [List.filterMap_cons_none hnone, List.filterMap_nil, List.length_nil]
    omega

/-- The parts of a text that goes on: the last one goes on, too, and further ones may follow. -/
theorem exists_parts_of_prefix {p q : Path} (h : p.text.toList <+: q.text.toList) :
    ∃ front last more rest, p.parts = front ++ [last] ∧ q.parts = front ++ (last ++ more) :: rest
      ∧ q.text.toList = p.text.toList ++ ['/'].intercalate (more :: rest) := by
  obtain ⟨back, hback⟩ := h
  obtain ⟨front, last, hp⟩ : ∃ front last, p.parts = front ++ [last] :=
    ⟨_, _, (List.dropLast_concat_getLast (parts_ne_nil p)).symm⟩
  obtain ⟨more, rest, hrest⟩ := List.exists_cons_of_ne_nil (List.splitOn_ne_nil '/' back)
  refine ⟨front, last, more, rest, hp, ?_, ?_⟩
  · rw [parts, ← hback]
    exact Text.splitOn_append_of_eq hp hrest
  · rw [← hrest, List.intercalate_splitOn, hback]

/-- A path that goes on has no fewer steps. -/
theorem length_steps_le_of_prefix {p q : Path} (h : p.text.toList <+: q.text.toList) :
    p.steps.length ≤ q.steps.length := by
  obtain ⟨front, last, more, rest, hp, hq, -⟩ := exists_parts_of_prefix h
  have hends : ([last].filterMap innerComponent?).length
      ≤ (((last ++ more) :: rest).filterMap innerComponent?).length := by
    by_cases hstep : isStep last
    · obtain ⟨c, hc⟩ := Option.isSome_iff_exists.mp hstep
      obtain ⟨c', hc'⟩ := Option.isSome_iff_exists.mp (isStep_append hstep more)
      rw [List.filterMap_cons_some hc, List.filterMap_cons_some hc', List.filterMap_nil]
      simp
    · have hnone := isStep_eq_false_iff.mp (Bool.eq_false_iff.mpr hstep)
      rw [List.filterMap_cons_none hnone]
      exact Nat.zero_le _
  rw [steps, steps, hp, hq, List.filterMap_append, List.filterMap_append, List.length_append,
    List.length_append]
  exact Nat.add_le_add_left hends _

/-- A path that ends with a step is the shortest beginning of itself with its steps. -/
theorem eq_of_prefix_of_steps {p q : Path} (h : p.text.toList <+: q.text.toList)
    (hsteps : p.steps = q.steps) (hlast : ∀ part ∈ q.parts.getLast?, isStep part) : p = q := by
  obtain ⟨front, last, e, rest, hp, hq, htext⟩ := exists_parts_of_prefix h
  rw [steps, steps, hp, hq, List.filterMap_append, List.filterMap_append] at hsteps
  have hends := List.append_cancel_left hsteps
  rw [hq] at hlast
  rcases List.eq_nil_or_concat rest with rfl | ⟨more, final, rfl⟩
  · -- the last part means the same with what is added to it, so that is nothing
    obtain ⟨c, hc⟩ := Option.isSome_iff_exists.mp (hlast (last ++ e) (by simp))
    rw [List.filterMap_cons_some hc, List.filterMap_nil] at hends
    obtain ⟨part, hpart, hc'⟩ := List.mem_filterMap.mp (hends ▸ List.mem_singleton_self c)
    rw [List.mem_singleton.mp hpart] at hc'
    obtain rfl : e = [] := eq_nil_of_innerComponent?_append hc' hc
    rw [List.intercalate_singleton, List.append_nil] at htext
    exact congrArg Path.mk (String.toList_injective htext.symm)
  · -- no step is lost, so there would be one more
    rw [List.concat_eq_append] at hends hlast
    have hfinal : isStep final := hlast final (by simp [List.getLast?_cons])
    have hlt := length_filterMap_lt last e hfinal more
    rw [hends] at hlt
    exact absurd hlt (Nat.lt_irrefl _)

/-- The parent of an absolute path is the root or ends with a step. -/
theorem isStep_getLast_parent? {p d : Path} {rest : List (List Char)} (habs : p.isAbsolute)
    (hparts : p.parts = [] :: rest) (hany : rest.any isStep) (hne : keptParts rest ≠ [])
    (hd : p.parent? = some d) : ∀ part ∈ d.parts.getLast?, isStep part := by
  have hpre : [] :: keptParts rest <+: p.parts :=
    hparts ▸ List.cons_prefix_cons.mpr ⟨rfl, keptParts_prefix hany⟩
  have hslash : ∀ part ∈ [] :: keptParts rest, '/' ∉ part := by
    intro part hpart
    have hmem : part ∈ p.parts := hpre.subset hpart
    exact not_mem_of_mem_splitOn hmem
  have hdparts : d.parts = [] :: keptParts rest := by
    have hjoin := parts_ofParts (List.cons_ne_nil _ _) hslash
    rw [intercalate_cons [] hne] at hjoin
    rw [parent?_of_isAbsolute habs hparts, if_pos hany] at hd
    rw [← Option.some.inj hd]
    exact hjoin
  intro part hpart
  apply isStep_getLast_keptParts hany
  rw [← hpart, hdparts]
  cases hkept : keptParts rest with
  | nil => exact absurd hkept hne
  | cons q qs => simp [List.getLast?_cons]

/-- No spelling of the parent of an absolute path that the path begins with is shorter. -/
theorem parent?_prefix {p d e : Path} (habs : p.isAbsolute) (hd : p.parent? = some d)
    (he : e.isAbsolute) (hpre : e.text.toList <+: p.text.toList)
    (hsteps : e.steps = p.steps.dropLast) : d.text.toList <+: e.text.toList := by
  have hne : p.steps ≠ [] := by
    intro hnil
    rw [parent?_eq_none habs hnil] at hd
    cases hd
  obtain ⟨d', hd', hdsteps, -, hdprefix⟩ := exists_parent hne
  obtain rfl : d' = d := Option.some.inj (hd'.symm.trans hd)
  rcases List.prefix_or_prefix_of_prefix hdprefix hpre with h | h
  · exact h
  · -- the parent ends with a step, unless it is the root
    obtain ⟨rest, hparts⟩ := parts_of_isAbsolute habs
    have hany : rest.any isStep := by
      apply any_isStep_of_filterMap_ne_nil
      simpa [steps, hparts, innerComponent?] using hne
    by_cases hnil : keptParts rest = []
    · obtain ⟨s, hs⟩ := isAbsolute_iff.mp he
      rw [parent?_of_isAbsolute habs hparts, if_pos hany] at hd
      rw [← Option.some.inj hd, hnil, hs]
      exact ⟨s, by simp⟩
    · have hlast := isStep_getLast_parent? habs hparts hany hnil hd
      rw [eq_of_prefix_of_steps h (hsteps.trans hdsteps.symm) hlast]

/-- The parts of a path that are steps spell its steps. -/
theorem filter_isStep (parts : List (List Char)) :
    parts.filter isStep = (parts.filterMap innerComponent?).map spelled := by
  induction parts with
  | nil => rfl
  | cons part parts ih =>
    cases hpart : innerComponent? part with
    | none => simp [isStep, hpart, ih]
    | some c => simp [isStep, hpart, ih, spelled_of_innerComponent? hpart]

/-- What is neither a slash nor a dot stands in the text of a path only inside a step. -/
theorem mem_text_iff {p : Path} {c : Char} (hslash : c ≠ '/') (hdot : c ≠ '.') :
    c ∈ p.text.toList ↔ ∃ step ∈ p.steps, c ∈ spelled step := by
  have hparts : c ∈ p.text.toList ↔ ∃ part ∈ p.parts, c ∈ part := by
    rw [← intercalate_parts p]
    exact Text.mem_intercalate_iff hslash
  rw [hparts]
  constructor
  · rintro ⟨part, hpart, hc⟩
    cases hstep : innerComponent? part with
    | none =>
      -- such a part is empty or a dot
      rcases innerComponent?_eq_none_iff.mp hstep with rfl | rfl
      · cases hc
      · exact absurd (List.mem_singleton.mp hc) hdot
    | some step =>
      refine ⟨step, List.mem_filterMap.mpr ⟨part, hpart, hstep⟩, ?_⟩
      rw [spelled_of_innerComponent? hstep]
      exact hc
  · rintro ⟨step, hstep, hc⟩
    obtain ⟨part, hpart, hinner⟩ := List.mem_filterMap.mp hstep
    rw [spelled_of_innerComponent? hinner] at hc
    exact ⟨part, hpart, hc⟩

/-! ## Ancestors -/

theorem steps_above {fuel : Nat} {p : Path} (habs : p.isAbsolute)
    (hfuel : p.steps.length ≤ fuel) :
    (p :: above fuel p).map steps = p.steps.inits.reverse := by
  induction fuel generalizing p with
  | zero =>
    have hnil : p.steps = [] := List.length_eq_zero_iff.mp (Nat.le_zero.mp hfuel)
    simp [above, hnil]
  | succ fuel ih =>
    by_cases hnil : p.steps = []
    · simp [above, parent?_eq_none habs hnil, hnil]
    · obtain ⟨d, hd, hsteps, hdabs, -⟩ := exists_parent hnil
      have hlast := List.dropLast_concat_getLast hnil
      have hih := ih (hdabs.trans habs) (by rw [hsteps, List.length_dropLast]; omega)
      rw [above, hd, List.map_cons, hih, hsteps]
      conv_rhs => rw [← hlast, List.inits_append]
      simp [hlast]

/-- The ancestors of an absolute path have its steps, without the last, without the last two, and so
on up to the root. -/
theorem steps_ancestors {p : Path} (habs : p.isAbsolute) :
    p.ancestors.map steps = p.steps.inits.reverse :=
  steps_above habs (List.length_filterMap_le _ _)

/-- The steps of the ancestors are beginnings of those of the path. -/
theorem steps_prefix_of_mem_ancestors {p a : Path} (habs : p.isAbsolute) (ha : a ∈ p.ancestors) :
    a.steps <+: p.steps := by
  have hmem := List.mem_map_of_mem (f := Path.steps) ha
  rw [steps_ancestors habs, List.mem_reverse, List.mem_inits] at hmem
  exact hmem

theorem forall_above {P : Path → Prop}
    (hparent : ∀ p d : Path, P p → p.parent? = some d → P d) (fuel : Nat) {p : Path} (h : P p) :
    ∀ a ∈ above fuel p, P a := by
  induction fuel generalizing p with
  | zero => simp [above]
  | succ fuel ih =>
    unfold above
    split
    · next d hd =>
      have hP := hparent p d h hd
      exact List.forall_mem_cons.mpr ⟨hP, ih hP⟩
    · simp

/-- What holds of a path and goes on from a path to its parent holds of all ancestors. -/
theorem forall_ancestors {P : Path → Prop}
    (hparent : ∀ p d : Path, P p → p.parent? = some d → P d) {p : Path} (h : P p) :
    ∀ a ∈ p.ancestors, P a :=
  List.forall_mem_cons.mpr ⟨h, forall_above hparent _ h⟩

/-- The ancestors of an absolute path are absolute, and their texts are beginnings of its own. -/
theorem isAbsolute_of_mem_ancestors {p a : Path} (habs : p.isAbsolute) (ha : a ∈ p.ancestors) :
    a.isAbsolute ∧ a.text.toList <+: p.text.toList := by
  refine forall_ancestors (P := fun a => a.isAbsolute ∧ a.text.toList <+: p.text.toList) ?_
    ⟨habs, List.prefix_refl _⟩ a ha
  rintro a d ⟨haabs, hpre⟩ hd
  by_cases hnil : a.steps = []
  · rw [parent?_eq_none haabs hnil] at hd
    cases hd
  · obtain ⟨d', hd', -, hdabs, hdprefix⟩ := exists_parent hnil
    obtain rfl : d' = d := Option.some.inj (hd'.symm.trans hd)
    exact ⟨hdabs.trans haabs, hdprefix.trans hpre⟩

/-- For each beginning of its steps an absolute path has an ancestor, and those nearer to the path
have more steps. -/
theorem exists_ancestor {p : Path} (habs : p.isAbsolute) {cs ds : List Component}
    (h : p.steps = cs ++ ds) :
    ∃ nearer a farther, p.ancestors = nearer ++ a :: farther ∧ a.steps = cs
      ∧ ∀ b ∈ nearer, cs.length < b.steps.length := by
  have hinits : cs.inits.reverse = cs :: cs.inits.reverse.tail := by
    rcases List.eq_nil_or_concat cs with rfl | ⟨front, c, rfl⟩
    · rfl
    · simp [List.inits_append]
  have hmap := steps_ancestors habs
  rw [h, List.inits_append, List.reverse_append, hinits] at hmap
  obtain ⟨nearer, others, hsplit, hnearer, hothers⟩ := List.map_eq_append_iff.mp hmap
  obtain ⟨a, farther, rfl, ha, -⟩ := List.map_eq_cons_iff.mp hothers
  refine ⟨nearer, a, farther, hsplit, ha, fun b hb => ?_⟩
  have hmem := hnearer ▸ List.mem_map_of_mem hb
  obtain ⟨rest, hrest, heq⟩ := List.mem_map.mp (List.mem_reverse.mp hmem)
  cases ds with
  | nil => cases hrest
  | cons d ds =>
    obtain ⟨t, -, rfl⟩ := List.mem_map.mp hrest
    rw [← heq, List.length_append, List.length_cons]
    omega

/-- The components of a path without its last part, if that is a step. -/
theorem components_ofParts {p d : Path} {first : List Char} {rest kept : List (List Char)}
    (hp : p.isAbsolute = false) (hd : d.isAbsolute = false) (hparts : p.parts = first :: rest)
    (hdparts : d.parts = first :: kept) (h : kept <+: rest) : d.components <+: p.components := by
  unfold components
  simp only [hparts, hdparts, hp, hd, Bool.false_eq_true, if_false]
  exact (List.prefix_append_right_inj _).mpr (h.filterMap _)

/-- The components of the parent of a path are a beginning of those of the path. -/
theorem components_prefix_of_parent? {p d : Path} (hd : p.parent? = some d) :
    d.components <+: p.components := by
  cases habs : p.isAbsolute with
  | true =>
    by_cases hnil : p.steps = []
    · rw [parent?_eq_none habs hnil] at hd
      cases hd
    · obtain ⟨d', hd', hsteps, hdabs, -⟩ := exists_parent_of_isAbsolute habs hnil
      obtain rfl : d' = d := Option.some.inj (hd'.symm.trans hd)
      rw [components_of_isAbsolute habs, components_of_isAbsolute hdabs, hsteps]
      exact List.cons_prefix_cons.mpr ⟨rfl, List.dropLast_prefix _⟩
  | false =>
    obtain ⟨first, rest, hparts⟩ := List.exists_cons_of_ne_nil (parts_ne_nil p)
    rw [parent?_of_not_isAbsolute habs hparts] at hd
    split at hd
    · next hany =>
      obtain ⟨d', hd', -, hdabs, -⟩ := exists_parent_of_any_isStep habs hparts hany
      rw [parent?_of_not_isAbsolute habs hparts, if_pos hany, hd] at hd'
      obtain rfl : d = d' := Option.some.inj hd'
      have hkept := keptParts_prefix hany
      have hpre : first :: keptParts rest <+: p.parts :=
        hparts ▸ List.cons_prefix_cons.mpr ⟨rfl, hkept⟩
      have hdparts : d.parts = first :: keptParts rest := by
        rw [← Option.some.inj hd]
        exact parts_ofParts (List.cons_ne_nil _ _)
          fun part hpart => not_mem_of_mem_splitOn (hpre.subset hpart)
      exact components_ofParts habs hdabs hparts hdparts hkept
    · split at hd
      · cases hd
      · -- nothing is left
        rw [← Option.some.inj hd]
        exact List.nil_prefix

/-- The components of an ancestor of a path are a beginning of those of the path. -/
theorem components_prefix_of_mem_ancestors {p a : Path} (ha : a ∈ p.ancestors) :
    a.components <+: p.components :=
  forall_ancestors (P := fun a => a.components <+: p.components)
    (fun _ _ hpre hd => (components_prefix_of_parent? hd).trans hpre) (List.prefix_refl _) a ha

/-! ## Names -/

theorem mem_names_iff {cs : List Component} {s : String} : s ∈ names cs ↔ .name s ∈ cs := by
  induction cs with
  | nil => simp [names]
  | cons c cs ih => cases c <;> simp_all [names]

theorem names_append (cs ds : List Component) : names (cs ++ ds) = names cs ++ names ds :=
  List.filterMap_append

theorem names_map_name (ns : List String) : names (ns.map .name) = ns := by
  rw [names, List.filterMap_map]
  exact List.filterMap_some

/-! ## Spellings -/

/-- The two absolute paths have the same components. -/
structure Same (p q : Path) : Prop where
  left : p.isAbsolute
  right : q.isAbsolute
  steps : p.steps = q.steps

theorem Same.components {p q : Path} (h : Same p q) : p.components = q.components := by
  rw [components_of_isAbsolute h.left, components_of_isAbsolute h.right, h.steps]

/-- Absolute paths with the same components are spellings of one path. -/
theorem same_of_components {p q : Path} (hp : p.isAbsolute) (hq : q.isAbsolute)
    (h : p.components = q.components) : Same p q := by
  refine ⟨hp, hq, ?_⟩
  rw [components_of_isAbsolute hp, components_of_isAbsolute hq] at h
  exact (List.cons.inj h).2

theorem Same.join {p q : Path} (h : Same p q) {r : Path} (hr : r.isAbsolute = false) :
    Same (p.join r) (q.join r) :=
  ⟨isAbsolute_join h.left hr, isAbsolute_join h.right hr, by
    rw [steps_join hr, steps_join hr, h.steps]⟩

/-- Two spellings of a path have the same ancestors, but for the spelling. -/
theorem Same.ancestors {p q : Path} (h : Same p q) :
    List.Forall₂ Same p.ancestors q.ancestors := by
  have hmap : p.ancestors.map Path.steps = q.ancestors.map Path.steps := by
    rw [steps_ancestors h.left, steps_ancestors h.right, h.steps]
  rw [← List.forall₂_eq_eq_eq, List.forall₂_map_left_iff, List.forall₂_map_right_iff] at hmap
  have hleft := (List.forall₂_and_left _ _).mpr
    ⟨fun a ha => (isAbsolute_of_mem_ancestors h.left ha).1, hmap⟩
  have hright := (List.forall₂_and_left _ _).mpr
    ⟨fun a ha => (isAbsolute_of_mem_ancestors h.right ha).1, hleft.flip⟩
  exact hright.flip.imp fun a b hab => ⟨hab.2.1, hab.1, hab.2.2⟩

/-- Further up, two spellings of a path with a name behind them only get shorter. -/
theorem Same.ancestors_short {p q name : Path} {limit : Nat} (h : Same p q)
    (hname : name.isAbsolute = false) (hp : (p.join name).text.utf8ByteSize < limit)
    (hq : (q.join name).text.utf8ByteSize < limit) :
    List.Forall₂ (fun a b => Same a b ∧ (a.join name).text.utf8ByteSize < limit
      ∧ (b.join name).text.utf8ByteSize < limit) p.ancestors q.ancestors := by
  have hshorter : ∀ r a : Path, r.isAbsolute → (r.join name).text.utf8ByteSize < limit →
      a ∈ r.ancestors → (a.join name).text.utf8ByteSize < limit := by
    intro r a hr hlimit ha
    have hstart := (isAbsolute_of_mem_ancestors hr ha).2
    exact Nat.lt_of_le_of_lt (Path.size_join_le_of_prefix hstart hname) hlimit
  have hleft := (List.forall₂_and_left _ _).mpr
    ⟨fun a ha => hshorter p a h.left hp ha, h.ancestors⟩
  have hright := (List.forall₂_and_left _ _).mpr
    ⟨fun b hb => hshorter q b h.right hq hb, hleft.flip⟩
  exact hright.flip.imp fun a b hab => ⟨hab.2.2, hab.2.1, hab.1⟩

end GoStructs.Path
