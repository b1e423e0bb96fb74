import GoStructs.Proofs.Import.Subdirectories
/-! # Segments of import paths

The slashes of an import path separate its segments.  Whatever rule an import path is made by, the
names of directories stand in it as segments of their own.  So the import path is well-formed, that
is, none of its segments is empty, if the module path is.  And within a module, an import path tells
the names of all directories below the module's root, whatever the module path looks like.

## Main statements

* `isWellFormed_iff`: a text is well-formed if none of its segments is empty.
* `segments_underModule`: the names below a module are segments behind those of the module path.
* `importPath_isWellFormed`: import paths are well-formed, and end with the name of the directory.
* `importPath_ne_of_together`: the import paths of different directories of a module differ. -/

namespace GoStructs

open GoStructs.Path (Component IsWritten Same)

namespace Path

variable {p : Path} {s : String}

/-- The names at the end of a path are written. -/
theorem isWritten_of_suffix {rel : List Component} (h : rel <:+ p.components) :
    ∀ s ∈ names rel, IsWritten (.name s) := by
  intro s hs
  exact isWritten_of_mem_steps (name_mem_steps (h.subset (mem_names_iff.mp hs)))

/-- Components at the end of others have the same last name. -/
theorem getLast?_names {cs rel : List Component} (hlast : cs.getLast? = some (.name s))
    (h : rel <:+ cs) (hne : rel ≠ []) : (names rel).getLast? = some s := by
  obtain ⟨base, rfl⟩ := h
  rw [List.getLast?_append_of_ne_nil base hne] at hlast
  obtain ⟨front, rfl⟩ := List.getLast?_eq_some_iff.mp hlast
  rw [names_append]
  exact List.getLast?_concat

/-- Behind the first component of a path there are steps. -/
theorem isWritten_of_components {base rel : List Component} (h : p.components = base ++ rel)
    (hbase : base ≠ []) : ∀ c ∈ rel, IsWritten c := by
  obtain ⟨first, rest, hparts⟩ := List.exists_cons_of_ne_nil (parts_ne_nil p)
  obtain ⟨head, hcomponents⟩ : ∃ head : Option Component,
      p.components = head.toList ++ rest.filterMap innerComponent? := by
    rw [components, hparts]
    exact ⟨_, rfl⟩
  have hrest : rel <:+ rest.filterMap innerComponent? := by
    obtain ⟨b, base, rfl⟩ := List.exists_cons_of_ne_nil hbase
    rw [h] at hcomponents
    cases head with
    | none => exact ⟨b :: base, hcomponents⟩
    | some c => exact ⟨base, (List.cons.inj hcomponents).2⟩
  intro c hc
  apply isWritten_of_mem_steps (p := p)
  rw [steps, hparts]
  exact ((List.suffix_cons first rest).filterMap innerComponent?).subset (hrest.subset hc)

end Path

namespace Import

variable {w : World} {c c' : Config} {file file' dir dir' root : Path}
  {modulePath name s t : String} {rel cs ds : List Component}

/-! ## Segments -/

/-- The parts of a text between its slashes. -/
def segments (s : String) : List String := (s.toList.splitOn '/').map String.ofList

theorem segments_append (s t : String) : segments (s ++ "/" ++ t) = segments s ++ segments t := by
  have htext : (s ++ "/" ++ t).toList = s.toList ++ '/' :: t.toList := by
    simp only [String.toList_append, List.append_assoc]
    rfl
  rw [segments, htext, List.splitOn_append_cons_self, List.map_append]
  rfl

/-- The segments of a text make it up, with slashes between. -/
theorem intercalate_segments (s : String) : String.intercalate "/" (segments s) = s := by
  have hparts : (segments s).map String.toList = s.toList.splitOn '/' := by
    rw [segments, List.map_map]
    exact List.map_id'' (fun _ => String.toList_ofList) _
  apply String.toList_inj.mp
  rw [String.toList_intercalate, hparts]
  exact List.intercalate_splitOn '/'

/-- Names with slashes between are the segments of what they make up. -/
theorem segments_intercalate {names : List String} (hne : names ≠ [])
    (h : ∀ s ∈ names, '/' ∉ s.toList) : segments (String.intercalate "/" names) = names := by
  have hslash : ∀ part ∈ names.map String.toList, '/' ∉ part := by
    intro part hpart
    obtain ⟨s, hs, rfl⟩ := List.mem_map.mp hpart
    exact h s hs
  have hmark : "/".toList = ['/'] := rfl
  rw [segments, String.toList_intercalate, hmark,
    List.splitOn_intercalate '/' hslash (by simpa using hne), List.map_map]
  exact List.map_id'' (fun _ => String.ofList_toList) _

/-- The text is not empty, and has slashes only between what is not empty. -/
structure IsWellFormed (s : String) : Prop where
  nonempty : s ≠ ""
  first : s.toList.head? ≠ some '/'
  last : s.toList.getLast? ≠ some '/'
  apart : ¬['/', '/'] <:+: s.toList

/-- An empty segment stands between two slashes, or between one and an end of the text. -/
theorem IsWellFormed.not_mem_segments (h : IsWellFormed s) : "" ∉ segments s := by
  intro hmem
  obtain ⟨front, rest, hsplit⟩ := List.append_of_mem hmem
  have htext := intercalate_segments s
  rw [hsplit] at htext
  by_cases hfront : front = []
  · by_cases hrest : rest = []
    · rw [hfront, hrest, List.nil_append, String.intercalate_singleton] at htext
      exact h.nonempty htext.symm
    · rw [hfront, List.nil_append, String.intercalate_cons_of_ne_nil hrest] at htext
      exact h.first (by simp [← htext])
  · by_cases hrest : rest = []
    · rw [hrest, String.intercalate_append_of_ne_nil hfront (List.cons_ne_nil _ _),
        String.intercalate_singleton] at htext
      exact h.last (by simp [← htext])
    · rw [String.intercalate_append_of_ne_nil hfront (List.cons_ne_nil _ _),
        String.intercalate_cons_of_ne_nil hrest] at htext
      refine h.apart ⟨(String.intercalate "/" front).toList,
        (String.intercalate "/" rest).toList, ?_⟩
      simp [← htext]

/-- On neither side of a slash a segment is empty if none is in the whole text. -/
theorem not_mem_segments_of_slash {a b : List Char} (h : "" ∉ segments s)
    (hslash : s.toList = a ++ '/' :: b) :
    "" ∉ segments (String.ofList a) ∧ "" ∉ segments (String.ofList b) := by
  have htext : s = String.ofList a ++ "/" ++ String.ofList b := by
    apply String.toList_inj.mp
    simp [hslash]
  rw [htext, segments_append, List.mem_append, not_or] at h
  exact h

/-- A text is well-formed if none of its segments is empty. -/
theorem isWellFormed_iff : IsWellFormed s ↔ "" ∉ segments s := by
  refine ⟨IsWellFormed.not_mem_segments, fun h => ?_⟩
  have hempty : "" ∈ segments (String.ofList []) := by decide +kernel
  refine ⟨?_, ?_, ?_, ?_⟩
  · rintro rfl
    exact h hempty
  · intro hfirst
    obtain ⟨rest, hrest⟩ := List.head?_eq_some_iff.mp hfirst
    exact (not_mem_segments_of_slash (a := []) h hrest).1 hempty
  · intro hlast
    obtain ⟨front, hfront⟩ := List.getLast?_eq_some_iff.mp hlast
    exact (not_mem_segments_of_slash h hfront).2 hempty
  · rintro ⟨front, rest, hapart⟩
    have hslashes : s.toList = front ++ '/' :: '/' :: rest := by simp [← hapart]
    have hrest : "" ∉ segments (String.ofList ('/' :: rest)) :=
      (not_mem_segments_of_slash h hslashes).2
    exact (not_mem_segments_of_slash (a := []) hrest String.toList_ofList).1 hempty

/-! ## Names below a module -/

theorem segments_slashed (h : ∀ s ∈ Path.names rel, IsWritten (.name s))
    (hne : Path.names rel ≠ []) : segments (Path.slashed rel) = Path.names rel :=
  segments_intercalate hne fun s hs => (h s hs).slash

/-- An import path below a module has the segments of the module path and then the names on the
way. -/
theorem segments_underModule (h : ∀ s ∈ Path.names rel, IsWritten (.name s))
    (hne : Path.names rel ≠ []) :
    segments (underModule modulePath rel)
      = segments (withoutSlashes modulePath) ++ Path.names rel := by
  rw [underModule_eq _ fun s hs => (h s hs).ne_empty, if_neg hne, segments_append]
  exact congrArg _ (segments_slashed h hne)

theorem underModule_congr (h : Path.names cs = Path.names ds) :
    underModule modulePath cs = underModule modulePath ds := by
  rw [underModule, underModule, Path.slashed, Path.slashed, h]

/-- With names below the module, the import path is not the module path. -/
theorem underModule_ne_of_names (hcs : Path.names cs = [])
    (h : ∀ s ∈ Path.names ds, IsWritten (.name s)) (hds : Path.names ds ≠ []) :
    underModule modulePath cs ≠ underModule modulePath ds := by
  rw [← underModule_congr (Path.names_map_name (Path.names ds))]
  apply underModule_ne
  · intro d hd
    obtain ⟨s, hs, rfl⟩ := List.mem_map.mp hd
    exact h s hs
  · obtain ⟨s, names, hnames⟩ := List.exists_cons_of_ne_nil hds
    simp [Path.namesLength, Path.names_map_name, hcs, hnames]

/-- An import path tells the names below the module. -/
theorem names_eq_of_underModule_eq (hcs : ∀ s ∈ Path.names cs, IsWritten (.name s))
    (hds : ∀ s ∈ Path.names ds, IsWritten (.name s))
    (h : underModule modulePath cs = underModule modulePath ds) :
    Path.names cs = Path.names ds := by
  -- only without names the module path keeps the slashes at its end, so this is a case of its own
  by_cases hcnil : Path.names cs = []
  · by_cases hdnil : Path.names ds = []
    · rw [hcnil, hdnil]
    · exact absurd h (underModule_ne_of_names hcnil hds hdnil)
  · by_cases hdnil : Path.names ds = []
    · exact absurd h.symm (underModule_ne_of_names hdnil hcs hcnil)
    · have hsegments := congrArg segments h
      rw [segments_underModule hcs hcnil, segments_underModule hds hdnil] at hsegments
      exact List.append_cancel_left hsegments

/-! ## The module in use -/

/-- The package in the directory gets its import path from a module path, for a directory that is
the root of the module. -/
inductive InModule (w : World) (c : Config) (dir : Path) (modulePath : String) (root : Path) : Prop
  /-- The configuration gives both. -/
  | override : c.modulePath = some modulePath → c.projectRoot = some root →
    root.components <+: dir.components → InModule w c dir modulePath root
  /-- The nearest module file that can be read gives the module path, and it is in the root. -/
  | moduleFile : ¬Overrides c dir → (moduleOf w dir).value = some ⟨modulePath, root⟩ →
    InModule w c dir modulePath root

/-- In a module the import path is made of the module path and of what leads from the root to the
directory. -/
theorem InModule.exists_underModule (h : InModule w c (packageDir w file) modulePath root) :
    ∃ rel, (packageDir w file).components = root.components ++ rel
      ∧ (importPath w c file).value = underModule modulePath rel := by
  cases h with
  | override hmodule hroot hstart =>
    obtain ⟨rel, hrel⟩ := hstart
    refine ⟨rel, hrel.symm, ?_⟩
    rw [importPath_of_byOverride (byOverride_of_components hmodule hroot hrel.symm),
      Told.quiet_value]
  | moduleFile hoverrides hm =>
    obtain ⟨rel, hrel, hvalue⟩ := importPath_of_module hoverrides hm
    exact ⟨rel, hrel, by rw [hvalue]⟩

/-- Without a module path the later rules decide. -/
theorem value_importPath_of_not_inModule
    (h : ∀ modulePath root, ¬InModule w c (packageDir w file) modulePath root) :
    (importPath w c file).value = byLaterRules c (packageDir w file) := by
  have hoverrides : ¬Overrides c (packageDir w file) := by
    rintro ⟨modulePath, root, hmodule, hroot, hstart⟩
    exact h modulePath root (.override hmodule hroot hstart)
  have hm : (moduleOf w (packageDir w file)).value = none := by
    rw [Option.eq_none_iff_forall_ne_some]
    intro m hm
    exact h m.path m.root (.moduleFile hoverrides hm)
  exact value_importPath_of_no_module hoverrides hm

/-! ## The later rules -/

theorem suffix_of_behindLast {name : String} (h : behindLast name cs = some rel) : rel <:+ cs := by
  unfold behindLast at h
  split at h
  · rw [← Option.some.inj h, ← List.reverse_prefix, List.reverse_reverse]
    exact List.takeWhile_prefix _
  · cases h

/-- Without a module, the import path is made of the last components of the directory. -/
theorem exists_slashed_of_byLaterRules (h : dir.components.getLast? = some (.name name)) :
    ∃ rel, rel ≠ [] ∧ rel <:+ dir.components ∧ byLaterRules c dir = Path.slashed rel := by
  unfold byLaterRules
  -- the first of the rules that applies decides; the last one always does
  cases hworkspace : byWorkspace c dir with
  | some path =>
    rw [byWorkspace_eq] at hworkspace
    obtain ⟨root, -, hroot⟩ := List.exists_of_findSome?_eq_some hworkspace
    have hbelow : dir.IsBelow (root.join ⟨sourceDirectory⟩) := by
      by_contra hnot
      rw [inWorkspace_eq_none_iff.mpr hnot] at hroot
      cases hroot
    obtain ⟨rel, hne, hrel⟩ := hbelow
    rw [inWorkspace_of_below hrel hne] at hroot
    exact ⟨rel, hne, ⟨_, hrel.symm⟩, (Option.some.inj hroot).symm⟩
  | none =>
    cases hsource : bySource dir with
    | some path =>
      unfold bySource at hsource
      split at hsource
      · next r rest hbehind =>
        exact ⟨r :: rest, List.cons_ne_nil _ _, suffix_of_behindLast hbehind,
          (Option.some.inj hsource).symm⟩
      · cases hsource
    | none =>
      obtain ⟨front, hfront⟩ := List.getLast?_eq_some_iff.mp h
      refine ⟨[.name name], List.cons_ne_nil _ _, ⟨front, hfront.symm⟩, ?_⟩
      rw [Option.getD_none, Option.getD_none, byName, Path.fileName?, h, Path.slashed]
      exact String.intercalate_singleton.symm

/-! ## Import paths are well-formed -/

theorem underModule_nil (modulePath : String) : underModule modulePath [] = modulePath := rfl

section

variable (hlast : (packageDir w file).components.getLast? = some (.name name))

include hlast

/-- Elsewhere than in the root of the module, the name of the directory is the last of those behind
the module path. -/
theorem InModule.exists_below (h : InModule w c (packageDir w file) modulePath root)
    (hne : (packageDir w file).components ≠ root.components) :
    ∃ rel, rel <:+ (packageDir w file).components ∧ (Path.names rel).getLast? = some name
      ∧ (importPath w c file).value = underModule modulePath rel := by
  obtain ⟨rel, hrel, hvalue⟩ := h.exists_underModule
  have hsuffix : rel <:+ (packageDir w file).components := ⟨root.components, hrel.symm⟩
  have hnil : rel ≠ [] := by
    rintro rfl
    exact hne (hrel.trans (List.append_nil _))
  exact ⟨rel, hsuffix, Path.getLast?_names hlast hsuffix hnil, hvalue⟩

/-- Only in the root of a module, the import path is the module path. -/
theorem InModule.value_eq_iff (h : InModule w c (packageDir w file) modulePath root) :
    (importPath w c file).value = modulePath
      ↔ (packageDir w file).components = root.components := by
  constructor
  · intro heq
    by_contra hne
    obtain ⟨rel, hsuffix, hend, hvalue⟩ := h.exists_below hlast hne
    have hpath : underModule modulePath [] ≠ underModule modulePath rel :=
      underModule_ne_of_names rfl (Path.isWritten_of_suffix hsuffix)
        (List.ne_nil_of_mem (List.mem_of_getLast? hend))
    rw [← hvalue, heq, underModule_nil] at hpath
    exact hpath rfl
  · intro heq
    obtain ⟨rel, hrel, hvalue⟩ := h.exists_underModule
    rw [heq] at hrel
    rw [hvalue, List.self_eq_append_right.mp hrel, underModule_nil]

/-- Elsewhere, the import path ends with names of directories, the last of which is that of the
package.  What stands before them, if anything, is the path of a module. -/
theorem exists_names_of_importPath
    (hroot : ∀ modulePath root, InModule w c (packageDir w file) modulePath root →
      (packageDir w file).components ≠ root.components) :
    ∃ front names, segments (importPath w c file).value = front ++ names
      ∧ names.getLast? = some name ∧ (∀ s ∈ names, s ≠ "")
      ∧ (front = [] ∨ ∃ modulePath root, InModule w c (packageDir w file) modulePath root
        ∧ front = segments (withoutSlashes modulePath)) := by
  by_cases hmodule : ∃ modulePath root, InModule w c (packageDir w file) modulePath root
  · obtain ⟨modulePath, root, hin⟩ := hmodule
    obtain ⟨rel, hsuffix, hend, hvalue⟩ := hin.exists_below hlast (hroot modulePath root hin)
    have hwritten := Path.isWritten_of_suffix hsuffix
    refine ⟨_, Path.names rel, ?_, hend, fun s hs => (hwritten s hs).ne_empty,
      .inr ⟨modulePath, root, hin, rfl⟩⟩
    rw [hvalue, segments_underModule hwritten (List.ne_nil_of_mem (List.mem_of_getLast? hend))]
  · obtain ⟨rel, hnil, hsuffix, hrules⟩ := exists_slashed_of_byLaterRules (c := c) hlast
    have hwritten := Path.isWritten_of_suffix hsuffix
    have hend := Path.getLast?_names hlast hsuffix hnil
    refine ⟨[], Path.names rel, ?_, hend, fun s hs => (hwritten s hs).ne_empty, .inl rfl⟩
    rw [value_importPath_of_not_inModule fun modulePath root h => hmodule ⟨modulePath, root, h⟩,
      hrules, segments_slashed hwritten (List.ne_nil_of_mem (List.mem_of_getLast? hend))]
    rfl

/-- Whatever rule makes it, the import path of a package in a directory that ends with a name is
well-formed, if the module path in use is.  It is the module path just in the root of the module;
elsewhere its last segment is the name of the directory. -/
theorem importPath_isWellFormed
    (hmodule : ∀ modulePath root, InModule w c (packageDir w file) modulePath root →
      IsWellFormed modulePath) :
    IsWellFormed (importPath w c file).value
      ∧ (∀ modulePath root, InModule w c (packageDir w file) modulePath root →
        ((importPath w c file).value = modulePath
          ↔ (packageDir w file).components = root.components))
      ∧ ((∀ modulePath root, InModule w c (packageDir w file) modulePath root →
          (packageDir w file).components ≠ root.components) →
        (segments (importPath w c file).value).getLast? = some name) := by
  refine ⟨?_, fun modulePath root hin => hin.value_eq_iff hlast, ?_⟩
  · by_cases hroot : ∃ modulePath root, InModule w c (packageDir w file) modulePath root
        ∧ (packageDir w file).components = root.components
    · obtain ⟨modulePath, root, hin, heq⟩ := hroot
      rw [(hin.value_eq_iff hlast).mpr heq]
      exact hmodule modulePath root hin
    · obtain ⟨front, names, hsegments, -, hnames, hfront⟩ :=
        exists_names_of_importPath hlast fun modulePath root hin heq =>
          hroot ⟨modulePath, root, hin, heq⟩
      rw [isWellFormed_iff, hsegments, List.mem_append, not_or]
      refine ⟨?_, fun hmem => hnames "" hmem rfl⟩
      rcases hfront with hfront | ⟨modulePath, root, hin, hfront⟩
      · rw [hfront]
        exact List.not_mem_nil
      · have hform := hmodule modulePath root hin
        rw [hfront, withoutSlashes_of_getLast? hform.last]
        exact isWellFormed_iff.mp hform
  · intro hroot
    obtain ⟨front, names, hsegments, hend, -⟩ := exists_names_of_importPath hlast hroot
    rw [hsegments, List.getLast?_append, hend, Option.some_or]

end

/-- A file in a module, behind a detour. -/
theorem importPath_isWellFormed_oneModule :
    IsWellFormed (importPath oneModule Config.unset ⟨"/root/a/../a/c/f.go"⟩).value
      ∧ (importPath oneModule Config.unset ⟨"/root/a/../a/c/f.go"⟩).value ≠ "m"
      ∧ (segments (importPath oneModule Config.unset ⟨"/root/a/../a/c/f.go"⟩).value).getLast?
        = some "c" := by
  have hm : (moduleOf oneModule (packageDir oneModule ⟨"/root/a/../a/c/f.go"⟩)).value
      = some ⟨"m", ⟨"/root/a/../a"⟩⟩ := by decide +kernel
  have hbelow : (packageDir oneModule ⟨"/root/a/../a/c/f.go"⟩).components
      ≠ (⟨"/root/a/../a"⟩ : Path).components := by decide +kernel
  have hin : InModule oneModule Config.unset (packageDir oneModule ⟨"/root/a/../a/c/f.go"⟩) "m"
      ⟨"/root/a/../a"⟩ := .moduleFile (not_overrides_of_modulePath rfl) hm
  have honly : ∀ modulePath root, InModule oneModule Config.unset
      (packageDir oneModule ⟨"/root/a/../a/c/f.go"⟩) modulePath root →
      modulePath = "m" ∧ root = ⟨"/root/a/../a"⟩ := by
    intro modulePath root h
    cases h with
    | override hmodule => cases hmodule
    | moduleFile hoverrides hm' =>
      cases hm.symm.trans hm'
      exact ⟨rfl, rfl⟩
  have hlast : (packageDir oneModule ⟨"/root/a/../a/c/f.go"⟩).components.getLast?
      = some (.name "c") := by decide +kernel
  have hmodule : IsWellFormed "m" := isWellFormed_iff.mpr (by decide +kernel)
  obtain ⟨hform, hpath, hname⟩ := importPath_isWellFormed hlast
    fun modulePath root h => (honly modulePath root h).1 ▸ hmodule
  refine ⟨hform, fun h => hbelow ((hpath "m" _ hin).mp h), hname fun modulePath root h => ?_⟩
  rw [(honly modulePath root h).2]
  exact hbelow

/-! ## Import paths of one module differ -/

/-- The path of a module stands in the module file in its root, and that can be read. -/
theorem exists_directive_of_moduleOf {m : Module} (h : (moduleOf w dir).value = some m) :
    ∃ text, m.root ∈ dir.ancestors ∧ w.readText (m.root.join moduleFileName) = .ok text
      ∧ (moduleDirective? text.toList).map String.ofList = some m.path := by
  obtain ⟨text, hreads⟩ := exists_reads_of_moduleAmong h
  have hmodule := moduleAmong_of_reads hreads
  rw [moduleOf, hmodule] at h
  obtain ⟨nearer, farther, hsplit, -, hread⟩ := hreads
  refine ⟨text, by simp [hsplit], hread, ?_⟩
  cases hpath : moduleDirective? text.toList with
  | none =>
    rw [hpath] at h
    cases h
  | some path =>
    rw [hpath] at h
    rw [← Option.some.inj h, Option.map_some]

/-- Where two packages have their modules from one directory, the modules have one path. -/
theorem path_eq_of_root {m m' : Module} (hm : (moduleOf w (packageDir w file)).value = some m)
    (hm' : (moduleOf w (packageDir w file')).value = some m')
    (hroot : m'.root.components = m.root.components) : m'.path = m.path := by
  -- both roots lead to one file, so the same directive is read there
  obtain ⟨text, hmem, hread, hpath⟩ := exists_directive_of_moduleOf hm
  obtain ⟨text', hmem', hread', hpath'⟩ := exists_directive_of_moduleOf hm'
  have hsame : Same m'.root m.root :=
    Path.same_of_components (isAbsolute_of_read hmem' hread') (isAbsolute_of_read hmem hread) hroot
  have htext : w.readText (m'.root.join moduleFileName) = w.readText (m.root.join moduleFileName) :=
    World.readText_same (World.resolve_join_same hsame isAbsolute_moduleFileName
      isStep_moduleFileName (isShort_of_readText hread') (isShort_of_readText hread))
  rw [hread', hread] at htext
  obtain rfl : text' = text := Except.ok.inj htext
  exact Option.some.inj (hpath'.symm.trans hpath)

/-- The packages in the two directories are in one module, the root of which is `root`. -/
inductive Together (w : World) (c c' : Config) (dir dir' root : Path) : Prop
  /-- Both are at or below the one project root. -/
  | override {modulePath : String} : c.modulePath = some modulePath → c.projectRoot = some root →
    c'.modulePath = some modulePath → c'.projectRoot = some root →
    root.components <+: dir.components → root.components <+: dir'.components →
    Together w c c' dir dir' root
  /-- For both, the nearest module file that can be read is the one in `root`. -/
  | moduleFile {m m' : Module} : ¬Overrides c dir → ¬Overrides c' dir' →
    (moduleOf w dir).value = some m → (moduleOf w dir').value = some m' →
    m.root.components = root.components → m'.root.components = root.components →
    Together w c c' dir dir' root

/-- Both import paths are made of one module path and of what leads from the root to each
directory. -/
theorem Together.exists_underModule
    (h : Together w c c' (packageDir w file) (packageDir w file') root) :
    ∃ modulePath rel rel', (packageDir w file).components = root.components ++ rel
      ∧ (packageDir w file').components = root.components ++ rel'
      ∧ (importPath w c file).value = underModule modulePath rel
      ∧ (importPath w c' file').value = underModule modulePath rel' := by
  obtain ⟨modulePath, root₁, root₂, hin, hin', hroot₁, hroot₂⟩ :
      ∃ modulePath root₁ root₂, InModule w c (packageDir w file) modulePath root₁
        ∧ InModule w c' (packageDir w file') modulePath root₂
        ∧ root₁.components = root.components ∧ root₂.components = root.components := by
    cases h with
    | override hmodule hproject hmodule' hproject' hstart hstart' =>
      exact ⟨_, _, _, .override hmodule hproject hstart, .override hmodule' hproject' hstart',
        rfl, rfl⟩
    | @moduleFile m m' hoverrides hoverrides' hm hm' hroot hroot' =>
      have hpath : m'.path = m.path := path_eq_of_root hm hm' (hroot'.trans hroot.symm)
      exact ⟨m.path, m.root, m'.root, .moduleFile hoverrides hm,
        hpath ▸ .moduleFile hoverrides' hm', hroot, hroot'⟩
  obtain ⟨rel, hrel, hvalue⟩ := hin.exists_underModule
  obtain ⟨rel', hrel', hvalue'⟩ := hin'.exists_underModule
  rw [hroot₁] at hrel
  rw [hroot₂] at hrel'
  exact ⟨modulePath, rel, rel', hrel, hrel', hvalue, hvalue'⟩

/-- In one module, different directories have different import paths, if neither leads up.  The
empty path is above every directory, also above one that is not seen from the root; below it, the
directories must differ in their names. -/
theorem importPath_ne_of_together
    (h : Together w c c' (packageDir w file) (packageDir w file') root)
    (hup : .up ∉ (packageDir w file).components) (hup' : .up ∉ (packageDir w file').components)
    (hne : (packageDir w file).components ≠ (packageDir w file').components)
    (hempty : root.text = "" →
      Path.names (packageDir w file).components ≠ Path.names (packageDir w file').components) :
    (importPath w c file).value ≠ (importPath w c' file').value := by
  obtain ⟨modulePath, rel, rel', hrel, hrel', hvalue, hvalue'⟩ := h.exists_underModule
  intro heq
  rw [hvalue, hvalue'] at heq
  have hnames : Path.names rel = Path.names rel' :=
    names_eq_of_underModule_eq (Path.isWritten_of_suffix ⟨_, hrel.symm⟩)
      (Path.isWritten_of_suffix ⟨_, hrel'.symm⟩) heq
  by_cases hroot : root.components = []
  · apply hempty (Path.text_eq_of_components_eq_nil hroot)
    rw [hrel, hrel', Path.names_append, Path.names_append, hnames]
  · -- behind the root there are only names, which tell what they are the names of
    apply hne
    rw [hrel, hrel', ← Path.map_names (Path.isWritten_of_components hrel hroot) ?_, hnames,
      Path.map_names (Path.isWritten_of_components hrel' hroot) ?_]
    · intro hmem
      exact hup' (hrel' ▸ List.mem_append_right _ hmem)
    · intro hmem
      exact hup (hrel ▸ List.mem_append_right _ hmem)

/-- The root of a module and a directory below, with a module path from the module file, and with an
empty one from the configuration. -/
theorem importPath_ne_of_together_root :
    (importPath oneModule Config.unset ⟨"/root/a/f.go"⟩).value
        ≠ (importPath oneModule Config.unset ⟨"/root/a/c/f.go"⟩).value
      ∧ (importPath noFiles ⟨none, some "", some ⟨"/r"⟩⟩ ⟨"/r/f.go"⟩).value
        ≠ (importPath noFiles ⟨none, some "", some ⟨"/r"⟩⟩ ⟨"/r/c/f.go"⟩).value := by
  constructor
  · have hm : (moduleOf oneModule (packageDir oneModule ⟨"/root/a/f.go"⟩)).value
        = some ⟨"m", ⟨"/root/a"⟩⟩ := by decide +kernel
    have hm' : (moduleOf oneModule (packageDir oneModule ⟨"/root/a/c/f.go"⟩)).value
        = some ⟨"m", ⟨"/root/a"⟩⟩ := by decide +kernel
    have hunset : ∀ dir, ¬Overrides Config.unset dir := fun dir => not_overrides_of_modulePath rfl
    have htogether : Together oneModule Config.unset Config.unset
        (packageDir oneModule ⟨"/root/a/f.go"⟩) (packageDir oneModule ⟨"/root/a/c/f.go"⟩)
        ⟨"/root/a"⟩ := .moduleFile (hunset _) (hunset _) hm hm' rfl rfl
    exact importPath_ne_of_together htogether (by decide +kernel) (by decide +kernel)
      (by decide +kernel) fun hempty => absurd hempty (by decide)
  · have hdir : packageDir noFiles ⟨"/r/f.go"⟩ = ⟨"/r"⟩ := by decide +kernel
    have hdir' : packageDir noFiles ⟨"/r/c/f.go"⟩ = ⟨"/r/c"⟩ := by decide +kernel
    have hbelow : (⟨"/r"⟩ : Path).components <+: (⟨"/r/c"⟩ : Path).components :=
      ⟨[.name "c"], by decide +kernel⟩
    have htogether : Together noFiles ⟨none, some "", some ⟨"/r"⟩⟩ ⟨none, some "", some ⟨"/r"⟩⟩
        (packageDir noFiles ⟨"/r/f.go"⟩) (packageDir noFiles ⟨"/r/c/f.go"⟩) ⟨"/r"⟩ := by
      rw [hdir, hdir']
      exact .override rfl rfl rfl rfl (List.prefix_refl _) hbelow
    exact importPath_ne_of_together htogether (by decide +kernel) (by decide +kernel)
      (by decide +kernel) fun hempty => absurd hempty (by decide)

/-- A world with nothing in it, not even a current directory. -/
def nowhere : World := ⟨[], none, []⟩

/-- Where paths stay relative, the empty project root is above those that begin with a slash and
those that do not, but the slash is not seen in their import paths. -/
theorem importPath_of_emptyRoot :
    Together nowhere ⟨none, some "m", some ⟨""⟩⟩ ⟨none, some "m", some ⟨""⟩⟩
        (packageDir nowhere ⟨"/a/f.go"⟩) (packageDir nowhere ⟨"a/f.go"⟩) ⟨""⟩
      ∧ .up ∉ (packageDir nowhere ⟨"/a/f.go"⟩).components
      ∧ .up ∉ (packageDir nowhere ⟨"a/f.go"⟩).components
      ∧ (packageDir nowhere ⟨"/a/f.go"⟩).components ≠ (packageDir nowhere ⟨"a/f.go"⟩).components
      ∧ (importPath nowhere ⟨none, some "m", some ⟨""⟩⟩ ⟨"/a/f.go"⟩).value
        = (importPath nowhere ⟨none, some "m", some ⟨""⟩⟩ ⟨"a/f.go"⟩).value := by
  have habove : ∀ dir : Path, (⟨""⟩ : Path).components <+: dir.components := by
    have hnone : (⟨""⟩ : Path).components = [] := by decide +kernel
    intro dir
    rw [hnone]
    exact List.nil_prefix
  exact ⟨.override rfl rfl rfl rfl (habove _) (habove _), by decide +kernel, by decide +kernel,
    by decide +kernel, by decide +kernel⟩

end Import

end GoStructs
