import GoStructs.Proofs.Import.ModuleFiles
import GoStructs.Proofs.Import.Spellings
import GoStructs.Proofs.World.Dots
/-! # Subdirectories

Below a module, import paths grow as directories do: the import path of a package in a directory
is that of a package in the directory above, a slash, and the name of the directory.  Three things
stand against it.  A directory of a module may be the project root of the configuration; then its
own packages are in another module.  A module path may end with a slash, which is kept in the import
path of the module's root and left out below.  And a module file may be found under one spelling of
a directory, but not under another one that is too long.

## Main statements

* `ancestors_eq_cons`: the directories above a directory are those above its parent, and the parent.
* `underModule_concat`: one more name behind a module path.
* `importPath_of_subdirectory`: the import path of a package in a subdirectory.
* `importPath_of_subdirectory_fails`: what stands against it. -/

namespace GoStructs

open GoStructs.Path (Component Same)

namespace Path

variable {p d : Path}

theorem above_eq_nil {fuel : Nat} (habs : p.isAbsolute) (hnil : p.steps = []) :
    above fuel p = [] := by
  cases fuel with
  | zero => rfl
  | succ fuel => rw [above, parent?_eq_none habs hnil]

/-- Once the root is reached, there is nothing further up. -/
theorem above_eq_of_le {j k : Nat} (habs : p.isAbsolute) (hj : p.steps.length ≤ j)
    (hk : p.steps.length ≤ k) : above j p = above k p := by
  induction j generalizing k p with
  | zero =>
    have hnil : p.steps = [] := List.length_eq_zero_iff.mp (Nat.le_zero.mp hj)
    rw [above_eq_nil habs hnil, above_eq_nil habs hnil]
  | succ j ih =>
    by_cases hnil : p.steps = []
    · rw [above_eq_nil habs hnil, above_eq_nil habs hnil]
    · have hpos : 0 < p.steps.length := List.length_pos_iff.mpr hnil
      obtain ⟨q, hq, hsteps, hqabs, -⟩ := exists_parent hnil
      have hlength : q.steps.length = p.steps.length - 1 := by rw [hsteps, List.length_dropLast]
      obtain ⟨k, rfl⟩ : ∃ l, k = l + 1 := ⟨k - 1, by omega⟩
      have hrest : above j q = above k q := ih (hqabs.trans habs) (by omega) (by omega)
      rw [above, above, hq]
      show q :: above j q = q :: above k q
      rw [hrest]

/-- The directories above an absolute path are its parent and those above that. -/
theorem ancestors_eq_cons (habs : p.isAbsolute) (hd : p.parent? = some d) :
    p.ancestors = p :: d.ancestors := by
  have hne : p.steps ≠ [] := by
    intro hnil
    rw [parent?_eq_none habs hnil] at hd
    cases hd
  obtain ⟨d', hd', hsteps, hdabs, -⟩ := exists_parent hne
  obtain rfl : d' = d := Option.some.inj (hd'.symm.trans hd)
  have hlength : d'.steps.length = p.steps.length - 1 := by rw [hsteps, List.length_dropLast]
  have hparts : p.steps.length ≤ p.parts.length := List.length_filterMap_le _ _
  have hpos : 0 < p.steps.length := List.length_pos_iff.mpr hne
  obtain ⟨k, hk⟩ : ∃ k, p.parts.length = k + 1 := ⟨p.parts.length - 1, by omega⟩
  have hfuel : above k d' = above d'.parts.length d' :=
    above_eq_of_le (hdabs.trans habs) (by omega) (List.length_filterMap_le _ _)
  rw [ancestors, ancestors, hk, above, hd]
  show p :: d' :: above k d' = p :: d' :: above d'.parts.length d'
  rw [hfuel]

end Path

namespace Import

variable {w : World} {c : Config} {file file' dir sub root : Path} {modulePath s : String}
  {rel : List Component}

/-! ## One more name -/

theorem withoutSlashes_of_getLast? {t : String} (h : t.toList.getLast? ≠ some '/') :
    withoutSlashes t = t := by
  have hdrop : t.toList.reverse.dropWhile (· == '/') = t.toList.reverse := by
    apply List.dropWhile_eq_self_iff.mpr
    intro hpos hslash
    apply h
    rw [List.getLast?_eq_head?_reverse, List.head?_eq_getElem?, List.getElem?_eq_getElem hpos]
    exact congrArg some (eq_of_beq hslash)
  rw [withoutSlashes, hdrop, List.reverse_reverse, String.ofList_toList]

/-- One more name stands behind a slash, unless the module path ends with one and there are no other
names. -/
theorem underModule_concat (hrel : ∀ t ∈ Path.names rel, t ≠ "") (hs : s ≠ "")
    (hslash : modulePath.toList.getLast? ≠ some '/' ∨ Path.names rel ≠ []) :
    underModule modulePath (rel ++ [.name s]) = underModule modulePath rel ++ "/" ++ s := by
  have hnames : Path.names (rel ++ [.name s]) = Path.names rel ++ [s] := Path.names_append _ _
  have hall : ∀ t ∈ Path.names (rel ++ [.name s]), t ≠ "" := by
    intro t ht
    rw [hnames] at ht
    rcases List.mem_append.mp ht with ht | ht
    · exact hrel t ht
    · rw [List.mem_singleton.mp ht]
      exact hs
  rw [underModule_eq _ hall, underModule_eq _ hrel, hnames,
    if_neg (List.append_ne_nil_of_right_ne_nil _ (List.cons_ne_nil s []))]
  by_cases hnil : Path.names rel = []
  · have hlast := hslash.resolve_right fun hne => hne hnil
    rw [if_pos hnil, hnil, withoutSlashes_of_getLast? hlast, List.nil_append,
      String.intercalate_singleton]
  · rw [if_neg hnil, String.intercalate_append_of_ne_nil hnil (List.cons_ne_nil s []),
      String.intercalate_singleton]
    simp only [String.append_assoc]

/-! ## The module of a subdirectory -/

/-- The path of the module file in the directory is short enough. -/
def IsShort (dir : Path) : Prop :=
  (dir.join moduleFileName).text.utf8ByteSize < World.pathLimit

/-- A module file that can be read has a path that is short enough. -/
theorem isShort_of_readText {text : String} (h : w.readText (dir.join moduleFileName) = .ok text) :
    IsShort dir := by
  obtain ⟨target, htarget⟩ := World.resolve_of_readBytes (World.readBytes_of_readText h)
  by_contra hlong
  obtain ⟨e, he⟩ := World.resolve_of_long (w := w) (Nat.not_lt.mp hlong)
  rw [htarget] at he
  cases he

/-- Where the module path of the packages in `dir` comes from.  If that is a module file, then there
is no other one in the subdirectory `sub`. -/
inductive Governs (w : World) (c : Config) (dir sub : Path) (modulePath : String) (root : Path) :
    Prop
  /-- The configuration gives it for a directory at or above `dir`. -/
  | override : c.modulePath = some modulePath → c.projectRoot = some root →
    root.components <+: dir.components → Governs w c dir sub modulePath root
  /-- The module file in `root` is the nearest for `dir`, and there is none in `sub`. -/
  | moduleFile : ¬Overrides c dir → (moduleOf w dir).value = some ⟨modulePath, root⟩ →
    (∀ text, w.readText (sub.join moduleFileName) ≠ .ok text) →
    Governs w c dir sub modulePath root

/-- A subdirectory without a module file is in the module of its directory. -/
theorem exists_module_of_subdirectory (habs : dir.isAbsolute)
    (hsub : sub.components = dir.components ++ [.name s])
    (hm : (moduleOf w dir).value = some ⟨modulePath, root⟩)
    (hunread : ∀ text, w.readText (sub.join moduleFileName) ≠ .ok text)
    (hspelled : sub.parent? = some dir ∨ IsShort dir ∧ IsShort sub) :
    ∃ root', (moduleOf w sub).value = some ⟨modulePath, root'⟩
      ∧ root'.components = root.components := by
  rw [Path.components_of_isAbsolute habs, List.cons_append] at hsub
  obtain ⟨hsubabs, hsteps⟩ := Path.isAbsolute_of_components hsub
  obtain ⟨e, he, hesteps, heabs, hestart⟩ := Path.exists_parent (p := sub) (by simp [hsteps])
  -- the search in `sub` goes on in its parent
  have hmodule : moduleOf w sub = moduleOf w e := by
    rw [moduleOf, Path.ancestors_eq_cons hsubabs he, moduleAmong_cons_of_unread hunread, moduleOf]
  rw [hmodule]
  rcases hspelled with hparent | ⟨hdir, hshort⟩
  · obtain rfl : dir = e := Option.some.inj (hparent.symm.trans he)
    exact ⟨root, hm, rfl⟩
  · have hsame : Same dir e :=
      ⟨habs, heabs.trans hsubabs, by rw [hesteps, hsteps, List.dropLast_concat]⟩
    have heshort : IsShort e := Nat.lt_of_le_of_lt
      (Path.size_join_le_of_prefix hestart isAbsolute_moduleFileName) hshort
    have hread : List.Forall₂ (fun a b => Same a b
        ∧ w.readText (a.join moduleFileName) = w.readText (b.join moduleFileName))
        dir.ancestors e.ancestors :=
      (hsame.ancestors_short isAbsolute_moduleFileName hdir heshort).imp fun a b hab =>
        ⟨hab.1, World.readText_same (World.resolve_join_same hab.1 isAbsolute_moduleFileName
          isStep_moduleFileName hab.2.1 hab.2.2)⟩
    have hmodules : SameModule (moduleOf w dir).value (moduleOf w e).value :=
      sameModule_moduleAmong hread
    rw [hm] at hmodules
    generalize (moduleOf w e).value = found at hmodules
    cases hmodules with
    | @some _ n hpath hroot =>
      obtain ⟨path, root'⟩ := n
      obtain rfl : modulePath = path := hpath
      exact ⟨root', rfl, hroot.components.symm⟩

/-! ## Import paths of subdirectories -/

/-- The package of `file'` is in the subdirectory `s` of the directory of `file`, and in the same
module. -/
structure InSubdirectory (w : World) (c : Config) (file file' : Path) (s modulePath : String)
    (root : Path) : Prop where
  components : (packageDir w file').components = (packageDir w file).components ++ [.name s]
  governs : Governs w c (packageDir w file) (packageDir w file') modulePath root

/-- Without a module file of its own, the import path of a subdirectory is that of its directory, a
slash, and its name.  The subdirectory must not lie below a project root that the directory does not
lie below.  If the module path comes from a module file, then the subdirectory is spelled with its
name behind the path of the directory, or both paths are short enough.  And the module path must not
end with a slash if the directory is the root of the module. -/
theorem importPath_of_subdirectory
    (h : InSubdirectory w c file file' s modulePath root)
    (hnested : Overrides c (packageDir w file') → Overrides c (packageDir w file))
    (hspelled : Overrides c (packageDir w file)
      ∨ (packageDir w file').parent? = some (packageDir w file)
      ∨ IsShort (packageDir w file) ∧ IsShort (packageDir w file'))
    (hslash : modulePath.toList.getLast? ≠ some '/'
      ∨ Path.names (packageDir w file).components ≠ Path.names root.components) :
    (importPath w c file').value = (importPath w c file).value ++ "/" ++ s := by
  have hsub := h.components
  have hs : s ≠ "" := by
    apply Path.ne_empty_of_mem_components (p := packageDir w file')
    rw [hsub]
    exact List.mem_append_right _ List.mem_cons_self
  have hone : ∀ rel, (packageDir w file).components = root.components ++ rel →
      underModule modulePath (rel ++ [.name s]) = underModule modulePath rel ++ "/" ++ s := by
    intro rel hrel
    refine underModule_concat ?_ hs ?_
    · intro t ht
      apply Path.ne_empty_of_mem_components (p := packageDir w file)
      rw [hrel]
      exact List.mem_append_right _ (Path.mem_names_iff.mp ht)
    · refine hslash.imp_right fun hne hnil => hne ?_
      rw [hrel, Path.names_append, hnil, List.append_nil]
  cases h.governs with
  | override hmodule hroot hstart =>
    obtain ⟨rel, hrel⟩ := hstart
    have hrel' : (packageDir w file').components = root.components ++ (rel ++ [.name s]) := by
      rw [hsub, ← hrel, List.append_assoc]
    rw [importPath_of_byOverride (byOverride_of_components hmodule hroot hrel.symm),
      importPath_of_byOverride (byOverride_of_components hmodule hroot hrel'), Told.quiet_value,
      Told.quiet_value, hone rel hrel.symm]
  | moduleFile hoverrides hm hunread =>
    have hoverrides' : ¬Overrides c (packageDir w file') := fun h => hoverrides (hnested h)
    obtain ⟨text, nearer, farther, hsplit, -, hread⟩ := exists_reads_of_moduleAmong hm
    have habs : (packageDir w file).isAbsolute :=
      isAbsolute_packageDir_of_read (a := root) (by simp [hsplit]) hread
    obtain ⟨root', hm', hroot⟩ := exists_module_of_subdirectory habs hsub hm hunread
      (hspelled.resolve_left hoverrides)
    obtain ⟨rel, hrel, hvalue⟩ := importPath_of_module hoverrides hm
    obtain ⟨rel', hrel', hvalue'⟩ := importPath_of_module hoverrides' hm'
    obtain rfl : rel' = rel ++ [.name s] := by
      rw [hsub, hrel, hroot, List.append_assoc] at hrel'
      exact (List.append_cancel_left hrel').symm
    rw [hvalue, hvalue']
    exact hone rel hrel

/-- A subdirectory of a directory below the root of a module the path of which ends with a slash. -/
theorem importPath_of_subdirectory_nested :
    (importPath nested Config.unset ⟨"/r/a/b/f.go"⟩).value = "m/b"
      ∧ (importPath nested Config.unset ⟨"/r/a/b/c/f.go"⟩).value = "m/b" ++ "/" ++ "c" := by
  have hunset : ∀ dir, ¬Overrides Config.unset dir := fun dir => not_overrides_of_modulePath rfl
  have hdir : packageDir nested ⟨"/r/a/b/f.go"⟩ = ⟨"/r/a/b"⟩ := by decide +kernel
  have hdir' : packageDir nested ⟨"/r/a/b/c/f.go"⟩ = ⟨"/r/a/b/c"⟩ := by decide +kernel
  have hsub : (packageDir nested ⟨"/r/a/b/c/f.go"⟩).components
      = (packageDir nested ⟨"/r/a/b/f.go"⟩).components ++ [.name "c"] := by decide +kernel
  have hunread : nested.readText ((⟨"/r/a/b/c"⟩ : Path).join moduleFileName) = .error .notText := by
    decide +kernel
  have hgoverns : Governs nested Config.unset (packageDir nested ⟨"/r/a/b/f.go"⟩)
      (packageDir nested ⟨"/r/a/b/c/f.go"⟩) "m/" ⟨"/r/a"⟩ := by
    rw [hdir, hdir']
    refine .moduleFile (hunset _) (by decide +kernel) ?_
    rw [hunread]
    exact nofun
  have hparent : (packageDir nested ⟨"/r/a/b/c/f.go"⟩).parent?
      = some (packageDir nested ⟨"/r/a/b/f.go"⟩) := by decide +kernel
  have hbelow : Path.names (packageDir nested ⟨"/r/a/b/f.go"⟩).components
      ≠ Path.names (⟨"/r/a"⟩ : Path).components := by decide +kernel
  have hvalue : (importPath nested Config.unset ⟨"/r/a/b/f.go"⟩).value = "m/b" := by
    decide +kernel
  have hcompose := importPath_of_subdirectory ⟨hsub, hgoverns⟩ (fun h => absurd h (hunset _))
    (.inr (.inl hparent)) (.inr hbelow)
  rw [hvalue] at hcompose
  exact ⟨hvalue, hcompose⟩

/-! ## What stands against it -/

/-- A module with one directory below its root. -/
def oneModule : World where
  entries := [(["root"], .directory), (["root", "a"], .directory),
    (["root", "a", "go.mod"], .file "module m\n".toUTF8), (["root", "a", "c"], .directory)]
  current := some ["root"]
  environment := []

/-- A file in that directory, with many detours to where one is on the way. -/
def farFile : Path := behindDots 2043 ⟨"a/c/f.go"⟩

/-- All the detours are in the path of the module file, so that it is not found. -/
theorem exists_packageDir_farFile :
    ∃ dir, packageDir oneModule farFile = dir ∧ dir.isAbsolute
      ∧ dir.steps = [.name "root", .name "a", .name "c"]
      ∧ ∀ a ∈ dir.ancestors, ∀ text, oneModule.readText (a.join moduleFileName) ≠ .ok text := by
  have hcwd : oneModule.currentPath? = some ⟨"/root"⟩ := by decide +kernel
  have hrel : (⟨"a/c/f.go"⟩ : Path).isAbsolute = false := by decide +kernel
  have hfile : (⟨"a/c/f.go"⟩ : Path).steps = [.name "a", .name "c", .name "f.go"] := by
    decide +kernel
  have hroot : (⟨"/root"⟩ : Path).steps = [.name "root"] := by decide +kernel
  obtain ⟨d, hd, habs, hsteps, hstart⟩ :=
    exists_parent_behindDots (n := 2043) hcwd hrel (by simp [hfile])
  rw [hroot, hfile] at hsteps
  have hdir : packageDir oneModule farFile = oneModule.absolute d := by
    rw [packageDir, farFile, hd, Option.getD_some]
  refine ⟨oneModule.absolute d, hdir, habs, hsteps, ?_⟩
  intro a ha text htext
  obtain ⟨target, htarget⟩ := World.resolve_of_readBytes (World.readBytes_of_readText htext)
  by_cases hlength : 1 < a.steps.length
  · -- the detours are in the path of the module file
    have hsize := size_join_of_mem_ancestors hrel isAbsolute_moduleFileName habs hstart ha
      (by rw [hroot]; exact hlength)
    have hrootsize : (⟨"/root"⟩ : Path).text.utf8ByteSize = 5 := by decide +kernel
    have hnamesize : moduleFileName.text.utf8ByteSize = 6 := by decide +kernel
    have hlong : World.pathLimit ≤ (a.join moduleFileName).text.utf8ByteSize := by
      rw [hrootsize, hnamesize] at hsize
      exact Nat.le_trans (by decide) hsize
    exact absurd (isShort_of_readText htext) (Nat.not_lt.mpr hlong)
  · -- further up there is no module file
    have haabs := (Path.isAbsolute_of_mem_ancestors habs ha).1
    have hwalk := World.walk_steps_of_resolve
      (Path.isAbsolute_join haabs isAbsolute_moduleFileName) htarget
    rw [Path.steps_join isAbsolute_moduleFileName, steps_moduleFileName] at hwalk
    obtain ⟨back, hback⟩ := Path.steps_prefix_of_mem_ancestors habs ha
    rw [hsteps] at hback
    cases hasteps : a.steps with
    | nil =>
      rw [hasteps] at hwalk
      cases hwalk
    | cons step more =>
      rw [hasteps] at hwalk hback hlength
      obtain rfl : more = [] := by simpa using hlength
      obtain rfl : step = .name "root" := (List.cons.inj hback).1
      cases hwalk

/-- So the import path is the name of the directory. -/
theorem importPath_farFile : (importPath oneModule Config.unset farFile).value = "c" := by
  obtain ⟨dir, hdir, habs, hsteps, hunread⟩ := exists_packageDir_farFile
  have hcomponents := Path.components_of_isAbsolute habs
  rw [hsteps] at hcomponents
  have hm : (moduleOf oneModule (packageDir oneModule farFile)).value = none := by
    rw [hdir]
    exact value_moduleAmong_eq_none hunread
  have hworkspace : byWorkspace Config.unset dir = none :=
    byWorkspace_eq_none (by simp [Config.gopathRoots, Config.unset])
  have hsource : bySource dir = none := by
    rw [bySource, hcomponents]
    decide +kernel
  rw [value_importPath_of_no_module (not_overrides_of_modulePath rfl) hm, hdir, hworkspace, hsource,
    byName, Path.fileName?, hcomponents]
  rfl

/-- Where the module path ends with a slash, where the subdirectory is a project root, and where the
path of the module file is too long as the subdirectory spells it. -/
theorem importPath_of_subdirectory_fails :
    (InSubdirectory noFiles ⟨none, some "m/", some ⟨"/r"⟩⟩ ⟨"/r/f.go"⟩ ⟨"/r/c/f.go"⟩ "c" "m/" ⟨"/r"⟩
        ∧ (importPath noFiles ⟨none, some "m/", some ⟨"/r"⟩⟩ ⟨"/r/c/f.go"⟩).value
          ≠ (importPath noFiles ⟨none, some "m/", some ⟨"/r"⟩⟩ ⟨"/r/f.go"⟩).value ++ "/" ++ "c")
      ∧ (InSubdirectory oneModule ⟨none, some "x", some ⟨"/root/a/c"⟩⟩ ⟨"/root/a/f.go"⟩
            ⟨"/root/a/c/f.go"⟩ "c" "m" ⟨"/root/a"⟩
        ∧ (importPath oneModule ⟨none, some "x", some ⟨"/root/a/c"⟩⟩ ⟨"/root/a/c/f.go"⟩).value
          ≠ (importPath oneModule ⟨none, some "x", some ⟨"/root/a/c"⟩⟩ ⟨"/root/a/f.go"⟩).value
            ++ "/" ++ "c")
      ∧ (InSubdirectory oneModule Config.unset ⟨"/root/a/f.go"⟩ farFile "c" "m" ⟨"/root/a"⟩
        ∧ (importPath oneModule Config.unset farFile).value
          ≠ (importPath oneModule Config.unset ⟨"/root/a/f.go"⟩).value ++ "/" ++ "c") := by
  refine ⟨⟨⟨by decide +kernel, ?_⟩, ?_⟩, ⟨⟨by decide +kernel, ?_⟩, ?_⟩, ⟨?_, ?_⟩, ?_⟩
  · have hdir : packageDir noFiles ⟨"/r/f.go"⟩ = ⟨"/r"⟩ := by decide +kernel
    rw [hdir]
    exact .override rfl rfl (List.prefix_refl _)
  · have hroot : (importPath noFiles ⟨none, some "m/", some ⟨"/r"⟩⟩ ⟨"/r/f.go"⟩).value = "m/" := by
      decide +kernel
    have hbelow : (importPath noFiles ⟨none, some "m/", some ⟨"/r"⟩⟩ ⟨"/r/c/f.go"⟩).value
        = "m/c" := by decide +kernel
    rw [hroot, hbelow]
    decide
  · have hdir : packageDir oneModule ⟨"/root/a/f.go"⟩ = ⟨"/root/a"⟩ := by decide +kernel
    have hdir' : packageDir oneModule ⟨"/root/a/c/f.go"⟩ = ⟨"/root/a/c"⟩ := by decide +kernel
    have hunread : oneModule.readText ((⟨"/root/a/c"⟩ : Path).join moduleFileName)
        = .error .notFound := rfl
    rw [hdir, hdir']
    refine .moduleFile ?_ (by decide +kernel) ?_
    · rw [← byOverride_eq_none_iff]
      decide +kernel
    · rw [hunread]
      exact nofun
  · have hinner : (importPath oneModule ⟨none, some "x", some ⟨"/root/a/c"⟩⟩
        ⟨"/root/a/c/f.go"⟩).value = "x" := by decide +kernel
    have houter : (importPath oneModule ⟨none, some "x", some ⟨"/root/a/c"⟩⟩
        ⟨"/root/a/f.go"⟩).value = "m" := by decide +kernel
    rw [hinner, houter]
    decide
  · obtain ⟨dir, hdir, habs, hsteps, -⟩ := exists_packageDir_farFile
    rw [hdir, Path.components_of_isAbsolute habs, hsteps]
    decide +kernel
  · obtain ⟨dir, hdir, -, -, hunread⟩ := exists_packageDir_farFile
    have hdir' : packageDir oneModule ⟨"/root/a/f.go"⟩ = ⟨"/root/a"⟩ := by decide +kernel
    rw [hdir, hdir']
    exact .moduleFile (not_overrides_of_modulePath rfl) (by decide +kernel)
      (hunread dir List.mem_cons_self)
  · have hnear : (importPath oneModule Config.unset ⟨"/root/a/f.go"⟩).value = "m" := by
      decide +kernel
    rw [hnear, importPath_farFile]
    decide

end Import

end GoStructs
