import GoStructs.Proofs.Config.Provenance
import GoStructs.Proofs.Import.ModuleFiles
import GoStructs.Proofs.Structs.RelativePaths
/-! # The tree of a project

A configuration file that gives a module path and a project root is for all packages below that
root, however deep they lie.  As long as no other configuration file is nearer to a package, its
path is the module path with the names of the directories below the root behind it.  Module files
do not count, nor do workspaces, nor the current directory.

The file is looked for under the path of the package's directory.  If that is too long, the file is
not found.

## Main statements

* `Config.isNearest_of_liesIn`: the configuration file of a project is found from all its packages.
* `Config.IsProject.settings_load`: what it gives is loaded.
* `extractStructs_of_project`: the import path of a package in the project. -/

namespace GoStructs

open GoStructs.Path (Component)
open GoStructs.Config (Says fileName)
open Setting (lookUp)

namespace Environment

variable {vars : List (String × String)}

/-- There are no variables for this program, and that of workspaces, if there is one, is a text. -/
structure IsPlain (vars : List (String × String)) : Prop where
  own : ∀ v ∈ vars, ¬small nameStart.toList <+: small v.1.toList
  workspaces : ∀ v ∈ valueOf? workspacePathOf? vars workspaceKey, ∃ s, v = .text s

theorem IsPlain.valueOf?_eq_none (h : IsPlain vars) (key : String) :
    valueOf? pathOf? vars key = none := by
  rw [valueOf?, List.findSome?_eq_none_iff]
  intro v hv
  have hstart := h.own v (List.mem_reverse.mp hv)
  have hpath : pathOf? v.1 = none := by
    rw [← List.isPrefixOf_iff_prefix] at hstart
    simp only [pathOf?, if_neg hstart]
  rw [saysOf?, hpath]

end Environment

namespace Config

variable {w : World} {root dir : Path} {place : Place} {modulePath q : String}
  {names : List String}

/-- In the directory `root`, which is at `place`, stands the configuration file of a project.  It
gives a module path, and for this a project root as the path `q` from the directory. -/
structure IsProject (w : World) (root : Path) (place : Place) (modulePath q : String) : Prop where
  isAbsolute : root.isAbsolute
  stands : w.resolve root = .ok (place, .directory)
  file : ∃ entries, Says w entries (some (root.join fileName))
    ∧ lookUp entries "module_path" = some (.text modulePath)
    ∧ lookUp entries "project_root" = some (.text q)
    ∧ ∀ v ∈ lookUp entries "gopath", ∃ s, v = .text s
  relative : (⟨q⟩ : Path).isAbsolute = false

/-- The directory lies at or below the project root, with the given names on the way, and between
it and the configuration file of the project there is no other. -/
structure LiesIn (w : World) (place : Place) (q : String) (dir : Path) (names : List String) :
    Prop where
  components : dir.components
    = .root :: (place.map .name ++ (⟨q⟩ : Path).steps ++ names.map .name)
  nearest : ∀ a ∈ dir.ancestors, place.length < a.steps.length →
    w.isFile (a.join fileName) = false

/-- On the way up from the directory, the path of the configuration file of the project is short
enough. -/
def IsShort (place : Place) (dir : Path) : Prop :=
  ∀ a ∈ dir.ancestors, a.components = .root :: place.map .name →
    (a.join fileName).text.utf8ByteSize < World.pathLimit

/-! ## The configuration file -/

/-- The configuration file of a project is found from all of its packages, and there says the
same. -/
theorem isNearest_of_liesIn (hproject : IsProject w root place modulePath q)
    (hin : LiesIn w place q dir names) (hshort : IsShort place dir) :
    ∃ a : Path, IsNearest w dir (some (a.join fileName)) ∧ a.isAbsolute ∧ a.steps = place.map .name
      ∧ ∀ entries, Says w entries (some (root.join fileName)) →
        Says w entries (some (a.join fileName)) := by
  obtain ⟨habs, hsteps⟩ := Path.isAbsolute_of_components hin.components
  obtain ⟨nearer, a, farther, hsplit, ha, hnearer⟩ :=
    Path.exists_ancestor habs (hsteps.trans (List.append_assoc _ _ _))
  have hmem : a ∈ dir.ancestors := by simp [hsplit]
  obtain ⟨haabs, -⟩ := Path.isAbsolute_of_mem_ancestors habs hmem
  have hsize := hshort a hmem (by rw [Path.components_of_isAbsolute haabs, ha])
  -- the file is the one that is read in the directory of the project
  obtain ⟨entries, ⟨text, htext, -⟩, -⟩ := hproject.file
  obtain ⟨fileplace, hfile⟩ := World.resolve_of_readBytes (World.readBytes_of_readText htext)
  have hresolve := World.resolve_join_of_place hproject.isAbsolute hproject.stands haabs ha
    isAbsolute_fileName (by decide +kernel) hfile hsize
  refine ⟨a, ⟨nearer, a, farther, hsplit, rfl, ?_, ?_⟩, haabs, ha, ?_⟩
  · rw [World.isFile, hresolve]
  · intro b hb
    refine hin.nearest b (by simp [hsplit, hb]) ?_
    simpa using hnearer b hb
  · intro entries hentries
    rw [Says, World.readText_same (hresolve.trans hfile.symm)]
    exact hentries

/-- What the configuration file of a project gives is loaded for all of its packages. -/
theorem IsProject.settings_load (hproject : IsProject w root place modulePath q)
    (henv : Environment.IsPlain w.environment) (hin : LiesIn w place q (w.absolute dir) names)
    (hshort : IsShort place (w.absolute dir)) :
    (load w dir).value.modulePath = some modulePath
      ∧ ∃ r, (load w dir).value.projectRoot = some r
        ∧ r.components = .root :: (place.map .name ++ (⟨q⟩ : Path).steps) := by
  obtain ⟨entries, hentries, hmodule, hroot, hgopath⟩ := hproject.file
  obtain ⟨a, hnearest, haabs, ha, hfile⟩ := isNearest_of_liesIn hproject hin hshort
  have hvalue := henv.valueOf?_eq_none
  -- the variables leave the settings of the project as they are in the file
  have heffective : ∀ key, key ≠ Environment.workspaceKey →
      effective? w.environment entries key = lookUp entries key := by
    intro key hkey
    rw [effective?_of_ne _ _ hkey, hvalue, Option.none_or]
  have hmodule := (heffective _ (by decide)).trans hmodule
  have hroot := (heffective _ (by decide)).trans hroot
  have htexts : AllTexts w.environment entries := by
    intro key hkey v hv
    simp only [keys, List.mem_cons, List.not_mem_nil, or_false] at hkey
    rcases hkey with rfl | rfl | rfl
    · rw [effective?, hvalue, Option.none_or] at hv
      rcases Option.or_eq_some_iff.mp hv with hv | ⟨-, hv⟩
      · exact henv.workspaces v hv
      · exact hgopath v hv
    · exact ⟨_, (Option.some.inj (hmodule.symm.trans hv)).symm⟩
    · exact ⟨_, (Option.some.inj (hroot.symm.trans hv)).symm⟩
  have hfileFor := isNearest_iff.mp hnearest
  have hlayered := isLayered_load (hfileFor ▸ hfile entries hentries) htexts
  rw [hfileFor] at hlayered
  refine ⟨?_, ?_⟩
  · rw [hlayered.modulePath, Option.map_eq_some_iff] at hmodule
    obtain ⟨m, hm, heq⟩ := hmodule
    rw [hm, Setting.text.inj heq]
  · obtain ⟨r, hr, hprojectRoot⟩ := hlayered.projectRoot
    rw [hr, Option.map_eq_some_iff] at hroot
    obtain ⟨r, rfl, heq⟩ := hroot
    obtain rfl := Setting.text.inj heq
    obtain ⟨p, hp, hsame⟩ := parent?_join_fileName haabs
    refine ⟨_, hprojectRoot, ?_⟩
    rw [baseOf, hvalue, Option.isSome_none, if_neg Bool.false_ne_true, Option.bind_some, hp,
      Option.getD_some, Path.components_of_isAbsolute (Path.isAbsolute_join hsame.left
        hproject.relative), Path.steps_join hproject.relative, hsame.steps, ha]

/-- What a configuration file gives can be read off its text. -/
theorem exists_says_of_given {file : Path} {text : String}
    (htext : w.readText file = .ok text)
    (h : (Toml.document? text.toList).map (fun es => (Setting.given (lookUp es "module_path"),
        Setting.given (lookUp es "project_root"), Setting.given (lookUp es "gopath")))
      = some (some (some modulePath), some (some q), some none)) :
    ∃ entries, Says w entries (some file)
      ∧ lookUp entries "module_path" = some (.text modulePath)
      ∧ lookUp entries "project_root" = some (.text q)
      ∧ ∀ v ∈ lookUp entries "gopath", ∃ s, v = .text s := by
  obtain ⟨entries, hentries, hgiven⟩ := Option.map_eq_some_iff.mp h
  obtain ⟨hmodule, hrest⟩ := Prod.mk.inj hgiven
  obtain ⟨hroot, hgopath⟩ := Prod.mk.inj hrest
  refine ⟨entries, ⟨text, htext, hentries⟩, Setting.given_eq_some_iff.mp hmodule,
    Setting.given_eq_some_iff.mp hroot, ?_⟩
  intro v hv
  rw [Setting.given_eq_some_iff.mp hgopath] at hv
  cases hv

end Config

variable {w : World} {root path : Path} {place : Place} {modulePath q : String}
  {names : List String} {f : SourceFile}

/-- What is extracted from a source file, under the configuration for its directory. -/
theorem exists_value_extractStructs (hf : (SourceFile.read w path).value = .ok f) :
    ∃ d, Import.packageDir w path = w.absolute d
      ∧ (extractStructs w path).value
        = .ok ⟨⟨f.packageName, (Import.importPath w (Config.load w d).value path).value⟩,
          resolveFields (rawStructs f)⟩ := by
  obtain ⟨text, htext, -⟩ := SourceFile.ofText_of_read hf
  obtain ⟨d, hd, -⟩ := Path.exists_parent
    (World.steps_ne_nil_of_readBytes (World.readBytes_of_readText htext))
  refine ⟨d, ?_, ?_⟩
  · rw [Import.packageDir, hd, Option.getD_some]
  · rw [value_extractStructs, hd, Option.getD_some, value_extractStructsWith hf]

/-- Each package in the tree of a project has the import path that the configuration file of the
project gives it, whatever other files there are, whatever workspaces, and whatever the current
directory is. -/
theorem extractStructs_of_project (hproject : Config.IsProject w root place modulePath q)
    (henv : Environment.IsPlain w.environment)
    (hin : Config.LiesIn w place q (Import.packageDir w path) names)
    (hshort : Config.IsShort place (Import.packageDir w path))
    (hf : (SourceFile.read w path).value = .ok f) :
    ∃ file, (extractStructs w path).value = .ok file
      ∧ file.package.importPath = if names = [] then modulePath
        else Import.withoutSlashes modulePath ++ "/" ++ String.intercalate "/" names := by
  obtain ⟨d, hdir, hvalue⟩ := exists_value_extractStructs hf
  rw [hdir] at hin hshort
  obtain ⟨hmodule, r, hroot, hr⟩ := hproject.settings_load henv hin hshort
  have hbelow : (Import.packageDir w path).components = r.components ++ names.map .name := by
    rw [hdir, hin.components, hr, List.cons_append]
  have himport := Import.importPath_of_byOverride
    (Import.byOverride_of_components hmodule hroot hbelow)
  rw [himport] at hvalue
  have hne : ∀ s ∈ names, s ≠ "" := by
    intro s hs
    have hmem : .name s ∈ (w.absolute d).steps := by
      rw [(Path.isAbsolute_of_components hin.components).2]
      exact List.mem_append_right _ (List.mem_map_of_mem hs)
    obtain ⟨c, hc, -⟩ := (Path.isWritten_of_mem_steps hmem).exists_char
    rintro rfl
    cases hc
  refine ⟨_, hvalue, ?_⟩
  have hnames : Path.names (names.map .name) = names := Path.names_map_name names
  have hunder := Import.underModule_eq modulePath (hnames.symm ▸ hne)
  rw [hnames] at hunder
  exact hunder

/-- The configuration file of a shop, the code of which is in a directory of its own. -/
def shopFile : String := "module_path = 'example.com/shop/'\nproject_root = './code'\n"

/-- The shop, which also has a module file and lies in a workspace. -/
def shop : World where
  entries := [(["src"], .directory), (["src", ".structscan.toml"], .file shopFile.toUTF8),
    (["src", "code"], .directory), (["src", "code", "go.mod"], .file "module other\n".toUTF8),
    (["src", "code", "models"], .directory),
    (["src", "code", "models", "a.go"], .file emptyPackage.toUTF8)]
  current := none
  environment := [("GOPATH", "/")]

theorem extractStructs_of_project_shop :
    Config.IsProject shop ⟨"/src"⟩ ["src"] "example.com/shop/" "./code"
      ∧ ∃ file, (extractStructs shop ⟨"/src/code/models/a.go"⟩).value = .ok file
        ∧ file.package.importPath = "example.com/shop/models" := by
  have hproject : Config.IsProject shop ⟨"/src"⟩ ["src"] "example.com/shop/" "./code" := by
    refine ⟨by decide +kernel, rfl, ?_, by decide +kernel⟩
    exact Config.exists_says_of_given (World.readText_of_readBytes rfl) (by decide +kernel)
  have henv : Environment.IsPlain shop.environment := by
    refine ⟨by decide +kernel, fun v hv => ?_⟩
    have hgiven : Setting.given (Environment.valueOf? Environment.workspacePathOf?
        shop.environment Environment.workspaceKey) = some (some "/") := by decide +kernel
    rw [Setting.given_eq_some_iff.mp hgiven] at hv
    exact ⟨_, (Option.some.inj hv).symm⟩
  have hdir : Import.packageDir shop ⟨"/src/code/models/a.go"⟩ = ⟨"/src/code/models"⟩ := by
    decide +kernel
  have hin : Config.LiesIn shop ["src"] "./code" ⟨"/src/code/models"⟩ ["models"] :=
    ⟨by decide +kernel, by decide +kernel⟩
  have hshort : Config.IsShort ["src"] ⟨"/src/code/models"⟩ := by
    unfold Config.IsShort
    decide +kernel
  have htext : shop.readText ⟨"/src/code/models/a.go"⟩ = .ok emptyPackage :=
    World.readText_of_readBytes rfl
  obtain ⟨f, hf, -⟩ := SourceFile.exists_read htext (by decide +kernel)
  obtain ⟨file, hfile, himport⟩ :=
    extractStructs_of_project hproject henv (hdir ▸ hin) (hdir ▸ hshort) hf
  exact ⟨hproject, file, hfile, himport.trans (by decide +kernel)⟩

/-! ## A path that is too long -/

/-- A project in a directory below the current one. -/
def inner : World where
  entries := [(["directory"], .directory), (["directory", "sub"], .directory),
    (["directory", "sub", ".structscan.toml"], .file Config.projectFile.toUTF8),
    (["directory", "sub", "a.go"], .file emptyPackage.toUTF8)]
  current := some ["directory"]
  environment := []

section

variable {n : Nat} {a : Path}

/-- The file of the project as seen from the current directory, with some detours to where one
is. -/
def innerFile (n : Nat) : Path := behindDots n ⟨"sub/a.go"⟩

theorem isAbsolute_subFile : (⟨"sub/a.go"⟩ : Path).isAbsolute = false := rfl

theorem steps_directory : (⟨"/directory"⟩ : Path).steps = [.name "directory"] := rfl

theorem packageDir_innerFile (n : Nat) :
    (Import.packageDir inner (innerFile n)).isAbsolute
      ∧ (Import.packageDir inner (innerFile n)).steps = [.name "directory", .name "sub"]
      ∧ (Import.packageDir inner (innerFile n)).text.toList
        <+: ((⟨"/directory"⟩ : Path).join (innerFile n)).text.toList := by
  have hcwd : inner.currentPath? = some ⟨"/directory"⟩ := rfl
  have hfilesteps : (⟨"sub/a.go"⟩ : Path).steps = [.name "sub", .name "a.go"] := rfl
  obtain ⟨d, hd, habs, hsteps, hstart⟩ :=
    exists_parent_behindDots (n := n) hcwd isAbsolute_subFile (by simp [hfilesteps])
  rw [steps_directory, hfilesteps] at hsteps
  rw [Import.packageDir, innerFile, hd, Option.getD_some]
  exact ⟨habs, hsteps, hstart⟩

theorem steps_of_mem_ancestors_innerFile
    (ha : a ∈ (Import.packageDir inner (innerFile n)).ancestors) :
    a.steps ∈ [[], [.name "directory"], [.name "directory", Component.name "sub"]] := by
  obtain ⟨habs, hsteps, -⟩ := packageDir_innerFile n
  have hmem := List.mem_map_of_mem (f := Path.steps) ha
  rw [Path.steps_ancestors habs, hsteps] at hmem
  simpa [or_comm, or_assoc, or_left_comm] using hmem

/-- The directory of the project has all of the detours in its path. -/
theorem long_of_mem_ancestors_innerFile
    (ha : a ∈ (Import.packageDir inner (innerFile n)).ancestors)
    (hsub : a.steps = [.name "directory", .name "sub"]) :
    2 * n + 26 ≤ (a.join fileName).text.utf8ByteSize := by
  obtain ⟨habs, -, hstart⟩ := packageDir_innerFile n
  have hsize := size_join_of_mem_ancestors isAbsolute_subFile isAbsolute_fileName habs hstart ha
    (by simp [steps_directory, hsub])
  have hcwd : (⟨"/directory"⟩ : Path).text.utf8ByteSize = 10 := rfl
  have hname : fileName.text.utf8ByteSize = 16 := rfl
  omega

/-- In the directories on the way to the file there is no file but those of the project. -/
theorem walk_of_mem_ancestors_innerFile
    (ha : a ∈ (Import.packageDir inner (innerFile n)).ancestors) {name : Path}
    (hname : name.isAbsolute = false) {target : Place × Entry}
    (h : inner.resolve (a.join name) = .ok target) :
    inner.walk [] ((a.steps ++ name.steps).map Path.spelled) = .ok target := by
  have haabs := (Path.isAbsolute_of_mem_ancestors (packageDir_innerFile n).1 ha).1
  rw [← Path.steps_join hname]
  exact World.walk_steps_of_resolve (Path.isAbsolute_join haabs hname) h

/-- With enough detours the configuration file of the project is not found. -/
theorem isNearest_innerFile (hn : World.pathLimit ≤ 2 * n + 26) :
    Config.IsNearest inner (Import.packageDir inner (innerFile n)) none := by
  intro a ha
  rw [Bool.eq_false_iff]
  intro hfile
  obtain ⟨place, bytes, hresolve⟩ := World.exists_of_isFile hfile
  have hwalk := walk_of_mem_ancestors_innerFile ha isAbsolute_fileName hresolve
  rw [steps_fileName] at hwalk
  have hsteps := steps_of_mem_ancestors_innerFile ha
  simp only [List.mem_cons, List.not_mem_nil, or_false] at hsteps
  rcases hsteps with hroot | hcwd | hsub
  · rw [hroot] at hwalk
    cases hwalk
  · rw [hcwd] at hwalk
    cases hwalk
  · obtain ⟨e, he⟩ := World.resolve_of_long (w := inner)
      (hn.trans (long_of_mem_ancestors_innerFile ha hsub))
    rw [hresolve] at he
    cases he

theorem moduleOf_innerFile :
    (Import.moduleOf inner (Import.packageDir inner (innerFile n))).value = none := by
  apply Import.value_moduleAmong_eq_none
  intro a ha text htext
  obtain ⟨target, hresolve⟩ := World.resolve_of_readBytes (World.readBytes_of_readText htext)
  have hwalk := walk_of_mem_ancestors_innerFile ha Import.isAbsolute_moduleFileName hresolve
  rw [Import.steps_moduleFileName] at hwalk
  have hsteps := steps_of_mem_ancestors_innerFile ha
  simp only [List.mem_cons, List.not_mem_nil, or_false] at hsteps
  rcases hsteps with hroot | hcwd | hsub
  · rw [hroot] at hwalk
    cases hwalk
  · rw [hcwd] at hwalk
    cases hwalk
  · rw [hsub] at hwalk
    cases hwalk

/-- Then the import path is the name of the directory. -/
theorem importPath_innerFile :
    (Import.importPath inner Config.unset (innerFile n)).value = "sub" := by
  obtain ⟨habs, hsteps, -⟩ := packageDir_innerFile n
  have hcomponents := Path.components_of_isAbsolute habs
  rw [hsteps] at hcomponents
  have hoverrides : ¬Import.Overrides Config.unset (Import.packageDir inner (innerFile n)) :=
    Import.not_overrides_of_modulePath rfl
  have hsource : Import.bySource (Import.packageDir inner (innerFile n)) = none := by
    rw [Import.bySource, hcomponents]
    decide +kernel
  rw [Import.value_importPath_of_no_module hoverrides moduleOf_innerFile, hsource,
    Import.byWorkspace_eq_none (by simp [Config.gopathRoots, Config.unset]), Import.byName,
    Path.fileName?, hcomponents]
  rfl

end

/-- A configuration file the path of which is too long is not found, though it can be read from
elsewhere. -/
theorem extractStructs_of_project_of_long :
    Config.IsProject inner ⟨"/directory/sub"⟩ ["directory", "sub"] "m" "."
      ∧ Environment.IsPlain inner.environment
      ∧ Config.LiesIn inner ["directory", "sub"] "."
        (Import.packageDir inner (innerFile 2043)) []
      ∧ (∃ f, (SourceFile.read inner (innerFile 2043)).value = .ok f)
      ∧ ¬∃ file, (extractStructs inner (innerFile 2043)).value = .ok file
        ∧ file.package.importPath = "m" := by
  have hproject : Config.IsProject inner ⟨"/directory/sub"⟩ ["directory", "sub"] "m" "." := by
    refine ⟨by decide +kernel, rfl, ?_, by decide +kernel⟩
    exact Config.exists_says_of_given (World.readText_of_readBytes rfl) (by decide +kernel)
  have henv : Environment.IsPlain inner.environment := ⟨by decide +kernel, nofun⟩
  obtain ⟨habs, hsteps, -⟩ := packageDir_innerFile 2043
  have hin : Config.LiesIn inner ["directory", "sub"] "."
      (Import.packageDir inner (innerFile 2043)) [] := by
    refine ⟨?_, fun a ha hlt => ?_⟩
    · rw [Path.components_of_isAbsolute habs, hsteps]
      decide +kernel
    · have hasteps := steps_of_mem_ancestors_innerFile ha
      simp only [List.mem_cons, List.not_mem_nil, or_false] at hasteps
      rcases hasteps with hroot | hcwd | hsub
      · simp [hroot] at hlt
      · simp [hcwd] at hlt
      · simp [hsub] at hlt
  have htext : inner.readText ⟨"sub/a.go"⟩ = .ok emptyPackage := World.readText_of_readBytes rfl
  have hlimit : World.pathLimit = 4096 := rfl
  have hsize := size_behindDots 2043 ⟨"sub/a.go"⟩
  have hname : (⟨"sub/a.go"⟩ : Path).text.utf8ByteSize = 8 := by decide +kernel
  obtain ⟨f, hf, -⟩ := SourceFile.exists_read htext (by decide +kernel)
  obtain ⟨f', hf'⟩ : ∃ f', (SourceFile.read inner (innerFile 2043)).value = .ok f' :=
    exists_read_behindDots hf (by decide +kernel) (by decide +kernel) (by decide +kernel)
      (by omega)
  refine ⟨hproject, henv, hin, ⟨f', hf'⟩, ?_⟩
  rintro ⟨file, hfile, himport⟩
  obtain ⟨d, hdir, hvalue⟩ := exists_value_extractStructs hf'
  have hnearest := isNearest_innerFile (n := 2043) (by omega)
  rw [hdir] at hnearest
  rw [hvalue, Config.load_of_no_file rfl hnearest, importPath_innerFile] at hfile
  obtain rfl := Except.ok.inj hfile
  have hne : "sub" ≠ "m" := by decide
  exact hne himport

end GoStructs
