import GoStructs.Proofs.Import.Names
import GoStructs.Proofs.Import.Rules
import GoStructs.Proofs.Source.Bytes
import GoStructs.Proofs.World.Changes
import GoStructs.Proofs.World.Searches
/-! # The nearest module file

To find the module of a package, the search goes up from the directory of the package and stops at
the first module file that can be read as text; what cannot be read is passed over.  If that file
has a module directive, then the module path and the names of the directories below the module are
the import path.  If it has none, then this is told, and the later rules decide.  Module files
further up are not looked at.

## Main statements

* `moduleAmong_of_reads`: the search stops at the nearest module file that can be read.
* `underModule_eq`: the module path with the names of the directories below behind it.
* `importPath_of_nearest`: what the nearest module file does to the import path. -/

namespace GoStructs

open GoStructs.Path (Component IsWritten)

namespace Path

variable {p : Path} {cs : List Component} {s : String}

/-! ## Names in a path -/

/-- A name among the components of a path is one of its steps. -/
theorem name_mem_steps (h : .name s ∈ p.components) : .name s ∈ p.steps := by
  obtain ⟨first, rest, hparts⟩ := List.exists_cons_of_ne_nil (parts_ne_nil p)
  have hsteps : p.steps = (first :: rest).filterMap innerComponent? := by rw [steps, hparts]
  have hcomponents : p.components
      = (if p.isAbsolute then some .root else firstComponent? first).toList
        ++ rest.filterMap innerComponent? := by
    simp only [components, hparts]
  rw [hcomponents] at h
  rw [hsteps]
  rcases List.mem_append.mp h with hfirst | hrest
  · -- what the first part of a path says, it says as a step, too
    rw [Option.mem_toList] at hfirst
    split at hfirst
    · cases hfirst
    · unfold firstComponent? at hfirst
      split at hfirst
      · cases hfirst
      · exact List.mem_filterMap.mpr ⟨first, List.mem_cons_self, hfirst⟩
  · obtain ⟨part, hpart, hinner⟩ := List.mem_filterMap.mp hrest
    exact List.mem_filterMap.mpr ⟨part, List.mem_cons_of_mem _ hpart, hinner⟩

/-- The names in a path are not empty. -/
theorem ne_empty_of_mem_components (h : .name s ∈ p.components) : s ≠ "" :=
  (isWritten_of_mem_steps (name_mem_steps h)).ne_empty

/-- Steps of which none leads up are names. -/
theorem map_names (h : ∀ c ∈ cs, IsWritten c) (hup : .up ∉ cs) : (names cs).map .name = cs := by
  induction cs with
  | nil => rfl
  | cons c cs ih =>
    obtain ⟨hc, hcs⟩ := List.forall_mem_cons.mp h
    have hrest := ih hcs fun hmem => hup (List.mem_cons_of_mem _ hmem)
    cases c with
    | root | here => cases hc.component
    | up => exact absurd List.mem_cons_self hup
    | name s => rw [names_name, List.map_cons, hrest]

/-- The steps of an absolute path that does not lead up are the names in it. -/
theorem steps_eq_names (habs : p.isAbsolute) (hup : .up ∉ p.components) :
    p.steps = (names p.components).map .name := by
  rw [components_of_isAbsolute habs] at hup ⊢
  have hnames : names (.root :: p.steps) = names p.steps := rfl
  rw [hnames, map_names (fun c hc => isWritten_of_mem_steps hc)
    fun hmem => hup (List.mem_cons_of_mem _ hmem)]

end Path

namespace Import

variable {w w' : World} {c : Config} {file dir a : Path} {m : Module} {text : String}
  {rel : List Component}

/-! ## Module paths with names behind them -/

/-- An import path below a module is the module path without slashes at its end, and the names of
the directories on the way, with slashes between. -/
theorem underModule_eq (modulePath : String) (h : ∀ s ∈ Path.names rel, s ≠ "") :
    underModule modulePath rel = if Path.names rel = [] then modulePath
      else withoutSlashes modulePath ++ "/" ++ String.intercalate "/" (Path.names rel) := by
  have hlength := Path.length_slashed rel
  unfold Path.namesLength at hlength
  show (if (Path.slashed rel).isEmpty then modulePath
    else withoutSlashes modulePath ++ "/" ++ Path.slashed rel) = _
  cases hnames : Path.names rel with
  | nil =>
    have hempty : Path.slashed rel = "" := by
      rw [hnames] at hlength
      exact String.length_eq_zero_iff.mp hlength
    rw [if_pos rfl, if_pos (String.isEmpty_iff.mpr hempty)]
  | cons s names =>
    -- the first name is not empty, so something stands behind the module path
    have hs : s.length ≠ 0 :=
      mt String.length_eq_zero_iff.mp (h s (hnames ▸ List.mem_cons_self))
    rw [hnames, List.map_cons, List.sum_cons] at hlength
    have hne : ¬(Path.slashed rel).isEmpty := by
      intro hempty
      rw [String.isEmpty_iff.mp hempty, String.length_empty] at hlength
      omega
    rw [if_neg (List.cons_ne_nil s names), if_neg hne, Path.slashed, hnames]

/-! ## The search -/

/-- Going up some directories, the first module file that can be read stands in `a`, and `text` is
what is read. -/
def Reads (w : World) (dirs : List Path) (a : Path) (text : String) : Prop :=
  ∃ nearer farther, dirs = nearer ++ a :: farther
    ∧ (∀ b ∈ nearer, ∀ s, w.readText (b.join moduleFileName) ≠ .ok s)
    ∧ w.readText (a.join moduleFileName) = .ok text

/-- A directory whose module file cannot be read is passed over. -/
theorem moduleAmong_cons_of_unread {dirs : List Path}
    (h : ∀ s, w.readText (dir.join moduleFileName) ≠ .ok s) :
    moduleAmong w (dir :: dirs) = moduleAmong w dirs := by
  rw [moduleAmong]
  cases hread : w.readText (dir.join moduleFileName) with
  | error e => rfl
  | ok text => exact absurd hread (h text)

/-- The search stops at the first module file that can be read. -/
theorem moduleAmong_of_reads {dirs : List Path} (h : Reads w dirs a text) :
    moduleAmong w dirs = match moduleDirective? text.toList with
      | some path => .quiet (some ⟨String.ofList path, a⟩)
      | none => ⟨none, [.noModuleDirective (a.join moduleFileName)]⟩ := by
  obtain ⟨nearer, farther, rfl, hnearer, ha⟩ := h
  induction nearer with
  | nil =>
    show moduleAmong w (a :: farther) = _
    rw [moduleAmong]
    cases hpath : moduleDirective? text.toList with
    | some path => simp only [ha, hpath]
    | none => simp only [ha, hpath]
  | cons b nearer ih =>
    obtain ⟨hb, hothers⟩ := List.forall_mem_cons.mp hnearer
    rw [List.cons_append, moduleAmong_cons_of_unread hb]
    exact ih hothers

/-- A module is that of the first module file that can be read. -/
theorem exists_reads_of_moduleAmong {dirs : List Path} (h : (moduleAmong w dirs).value = some m) :
    ∃ text, Reads w dirs m.root text := by
  induction dirs with
  | nil => cases h
  | cons d dirs ih =>
    by_cases hread : ∃ s, w.readText (d.join moduleFileName) = .ok s
    · obtain ⟨text, htext⟩ := hread
      have hreads : Reads w (d :: dirs) d text := ⟨[], dirs, rfl, by simp, htext⟩
      rw [moduleAmong_of_reads hreads] at h
      cases hdirective : moduleDirective? text.toList with
      | none =>
        rw [hdirective] at h
        cases h
      | some path =>
        rw [hdirective] at h
        cases h
        exact ⟨text, hreads⟩
    · have hunread : ∀ s, w.readText (d.join moduleFileName) ≠ .ok s := fun s hs => hread ⟨s, hs⟩
      rw [moduleAmong_cons_of_unread hunread] at h
      obtain ⟨text, nearer, farther, rfl, hnearer, ha⟩ := ih h
      exact ⟨text, d :: nearer, farther, rfl, List.forall_mem_cons.mpr ⟨hunread, hnearer⟩, ha⟩

/-! ## What can be read -/

theorem isAbsolute_moduleFileName : moduleFileName.isAbsolute = false := rfl

theorem steps_moduleFileName : moduleFileName.steps = [.name moduleFileName.text] := rfl

/-- The name of a module file ends with a step. -/
theorem isStep_moduleFileName : ∀ part ∈ moduleFileName.parts.getLast?, Path.isStep part := by
  decide +kernel

/-- From the directory of a package, module files are read only in directories seen from the root:
where a directory cannot be seen from there, there is no current directory. -/
theorem isAbsolute_of_read (ha : a ∈ (packageDir w file).ancestors)
    (hread : w.readText (a.join moduleFileName) = .ok text) : a.isAbsolute := by
  by_contra hrel
  have hrel := Bool.eq_false_iff.mpr hrel
  -- a relative path is followed from the current directory
  obtain ⟨target, htarget⟩ := World.resolve_of_readBytes (World.readBytes_of_readText hread)
  obtain ⟨dir, hdir, -⟩ := World.walk_of_resolve htarget
  rw [World.startOf, Path.isAbsolute_join_eq_false hrel isAbsolute_moduleFileName,
    if_neg Bool.false_ne_true] at hdir
  -- but from there the directory of the package is seen from the root
  have hcwd : w.currentPath? = some ⟨"/" ++ String.intercalate "/" dir⟩ := by
    rw [World.currentPath?, hdir, Option.map_some]
  have habs : (packageDir w file).isAbsolute := World.isAbsolute_absolute hcwd _
  rw [(Path.isAbsolute_of_mem_ancestors habs ha).1] at hrel
  cases hrel

/-- If a module file in a directory at or above that of the package can be read, then the directory
of the package is seen from the root. -/
theorem isAbsolute_packageDir_of_read (ha : a ∈ (packageDir w file).ancestors)
    (hread : w.readText (a.join moduleFileName) = .ok text) : (packageDir w file).isAbsolute := by
  have habs := isAbsolute_of_read ha hread
  obtain ⟨rest, hrest⟩ := Path.components_prefix_of_mem_ancestors ha
  rw [Path.components_of_isAbsolute habs, List.cons_append] at hrest
  exact (Path.isAbsolute_of_components hrest.symm).1

/-! ## What the nearest module file does -/

/-- What rules 3 to 5 give. -/
def byLaterRules (c : Config) (dir : Path) : String :=
  (byWorkspace c dir).getD ((bySource dir).getD (byName dir))

/-- On the way to a module file that can be read there are only directories. -/
theorem entry?_of_read (habs : a.isAbsolute) (hup : .up ∉ a.components)
    (hread : w.readText (a.join moduleFileName) = .ok text) {front : List String}
    (hfront : front <+: Path.names a.components) : w.entry? front = some .directory := by
  obtain ⟨target, htarget⟩ := World.resolve_of_readBytes (World.readBytes_of_readText hread)
  have hwalk := World.walk_steps_of_resolve
    (Path.isAbsolute_join habs isAbsolute_moduleFileName) htarget
  rw [Path.steps_join isAbsolute_moduleFileName, List.map_append, Path.steps_eq_names habs hup,
    List.map_map] at hwalk
  have hwritten : ∀ s ∈ Path.names a.components, IsWritten (.name s) := by
    intro s hs
    exact Path.isWritten_of_mem_steps (Path.name_mem_steps (Path.mem_names_iff.mp hs))
  have hroot : w.entry? [] = some .directory := rfl
  exact World.entry?_of_walk hwritten (by simp [steps_moduleFileName]) hroot hwalk hfront

/-- Which module file is read first does not change if none changes but those in directories
strictly above it. -/
theorem Reads.of_differsAbove (h : Reads w (packageDir w file).ancestors a text)
    (hup : .up ∉ (packageDir w file).components)
    (hw : World.DiffersAbove moduleFileName.text (Path.names a.components) w w') :
    Reads w' (packageDir w file).ancestors a text := by
  obtain ⟨nearer, farther, hsplit, hnearer, ha⟩ := h
  have hmem : a ∈ (packageDir w file).ancestors := by simp [hsplit]
  have habs := isAbsolute_packageDir_of_read hmem ha
  have hseen : ∀ b ∈ (packageDir w file).ancestors, b.isAbsolute ∧ .up ∉ b.components := by
    intro b hb
    refine ⟨(Path.isAbsolute_of_mem_ancestors habs hb).1, fun hmem => hup ?_⟩
    exact (Path.components_prefix_of_mem_ancestors hb).subset hmem
  have hread : ∀ b ∈ (packageDir w file).ancestors, a.components <+: b.components →
      w'.readText (b.join moduleFileName) = w.readText (b.join moduleFileName) := by
    intro b hb hbelow
    obtain ⟨hbabs, hbup⟩ := hseen b hb
    have hresolve := hw.resolve_join
      (fun front => entry?_of_read (hseen a hmem).1 (hseen a hmem).2 ha) hbabs
      (Path.steps_eq_names hbabs hbup) (hbelow.filterMap _) isAbsolute_moduleFileName
      steps_moduleFileName isStep_moduleFileName
    rw [World.readText, World.readText, World.readBytes, World.readBytes, hresolve]
  -- whatever is nearer than the module file is below it
  have hpairwise := Path.pairwise_ancestors (packageDir w file)
  rw [hsplit] at hpairwise
  refine ⟨nearer, farther, hsplit, ?_, ?_⟩
  · intro b hb s
    have hbelow := (List.pairwise_append.mp hpairwise).2.2 b hb a List.mem_cons_self
    rw [hread b (by simp [hsplit, hb]) hbelow]
    exact hnearer b hb s
  · rw [hread a hmem (List.prefix_refl _)]
    exact ha

/-- What the nearest module file that can be read does to the import path of a package that the
configuration has none for.  If it has a module directive, then the import path is the module path,
with the names of the directories below behind it.  If it has none, then that is told once, and the
later rules decide.  Module files in directories strictly above it change nothing. -/
theorem importPath_of_nearest (hoverrides : ¬Overrides c (packageDir w file))
    (h : Reads w (packageDir w file).ancestors a text) :
    ∃ rel, (packageDir w file).components = a.components ++ rel
      ∧ (∀ path, moduleDirective? text.toList = some path →
        importPath w c file = .quiet (if Path.names rel = [] then String.ofList path
          else withoutSlashes (String.ofList path) ++ "/"
            ++ String.intercalate "/" (Path.names rel)))
      ∧ (moduleDirective? text.toList = none →
        importPath w c file
          = ⟨byLaterRules c (packageDir w file), [.noModuleDirective (a.join moduleFileName)]⟩)
      ∧ (.up ∉ (packageDir w file).components →
        ∀ w', World.DiffersAbove moduleFileName.text (Path.names a.components) w w' →
          importPath w' c file = importPath w c file) := by
  have hmodule := moduleAmong_of_reads h
  obtain ⟨nearer, farther, hsplit, -⟩ := id h
  have hmem : a ∈ (packageDir w file).ancestors := by simp [hsplit]
  obtain ⟨rel, hrel⟩ := Path.components_prefix_of_mem_ancestors hmem
  refine ⟨rel, hrel.symm, ?_, ?_, ?_⟩
  · intro path hpath
    rw [hpath] at hmodule
    have hby : byModule (some ⟨String.ofList path, a⟩) (packageDir w file)
        = some (underModule (String.ofList path) rel) := by
      rw [byModule, Option.bind_some, Path.below?_eq_some_iff.mpr hrel.symm, Option.map_some]
    have hne : ∀ s ∈ Path.names rel, s ≠ "" := by
      intro s hs
      apply Path.ne_empty_of_mem_components (p := packageDir w file)
      rw [← hrel]
      exact List.mem_append_right _ (Path.mem_names_iff.mp hs)
    rw [importPath_of_not_overrides hoverrides, moduleOf, hmodule, ← underModule_eq _ hne]
    simp only [Told.andThen, Told.quiet, hby, Option.some_or, Option.getD_some, List.nil_append]
  · intro hnone
    rw [hnone] at hmodule
    rw [importPath_of_not_overrides hoverrides, moduleOf, hmodule]
    simp only [Told.andThen, Told.quiet, byModule, Option.bind_none, Option.none_or, byLaterRules,
      List.append_nil]
  · intro hup w' hw
    have hdir : packageDir w' file = packageDir w file := by
      simp only [packageDir, World.absolute, World.currentPath?, hw.current]
    have hsame : moduleOf w' (packageDir w file) = moduleOf w (packageDir w file) := by
      rw [moduleOf, moduleOf, hmodule, moduleAmong_of_reads (h.of_differsAbove hup hw)]
    rw [importPath_of_not_overrides hoverrides,
      importPath_of_not_overrides (hdir.symm ▸ hoverrides), hdir, hsame]

/-- Two modules, one in the other, and a package below in which no module file can be read: one is
a directory, and one is not text. -/
def nested : World where
  entries := [(["r"], .directory), (["r", "go.mod"], .file "module top\n".toUTF8),
    (["r", "a"], .directory), (["r", "a", "go.mod"], .file "module m/\n".toUTF8),
    (["r", "a", "b"], .directory), (["r", "a", "b", "go.mod"], .directory),
    (["r", "a", "b", "c"], .directory), (["r", "a", "b", "c", "go.mod"], .file ⟨#[0xff]⟩)]
  current := none
  environment := []

/-- The same, but for a module file without a directive further up. -/
def nestedInNone : World :=
  { nested with entries := (["r", "go.mod"], .file "go 1.22\n".toUTF8) :: nested.entries }

/-- Nearest to the package is the module file of the inner module. -/
theorem reads_nested : Reads nested (⟨"/r/a/b/c"⟩ : Path).ancestors ⟨"/r/a"⟩ "module m/\n" := by
  have hdirectory : nested.readText ((⟨"/r/a/b"⟩ : Path).join moduleFileName)
      = .error .isDirectory := rfl
  have hbytes : nested.readText ((⟨"/r/a/b/c"⟩ : Path).join moduleFileName) = .error .notText := by
    decide +kernel
  refine ⟨[⟨"/r/a/b/c"⟩, ⟨"/r/a/b"⟩], [⟨"/r"⟩, ⟨"/"⟩], by decide +kernel, ?_,
    World.readText_of_readBytes rfl⟩
  intro b hb s
  simp only [List.mem_cons, List.not_mem_nil, or_false] at hb
  rcases hb with rfl | rfl
  · rw [hbytes]
    exact nofun
  · rw [hdirectory]
    exact nofun

theorem differsAbove_nested :
    World.DiffersAbove moduleFileName.text (Path.names (⟨"/r/a"⟩ : Path).components) nested
      nestedInNone := by
  have hnames : Path.names (⟨"/r/a"⟩ : Path).components = ["r", "a"] := by decide +kernel
  refine ⟨rfl, fun p => ?_⟩
  by_cases hp : p = ["r", "go.mod"]
  · refine .inr ⟨?_, ["r"], ?_, ?_, hp⟩
    · rw [hp]
      exact nofun
    · rw [hnames]
      exact ⟨["a"], rfl⟩
    · rw [hnames]
      decide
  · left
    have hne : (["r", "go.mod"] == p) = false := beq_false_of_ne fun h => hp h.symm
    unfold World.entry? nestedInNone
    simp only [List.find?_cons, hne]

/-- The package is in the inner module, whatever the outer one is; a package that is only in the
outer one is in none if the outer module file has no directive. -/
theorem importPath_of_nearest_nested :
    importPath nested Config.unset ⟨"/r/a/b/c/f.go"⟩ = .quiet "m/b/c"
      ∧ importPath nestedInNone Config.unset ⟨"/r/a/b/c/f.go"⟩ = .quiet "m/b/c"
      ∧ importPath nestedInNone Config.unset ⟨"/r/x/f.go"⟩
        = ⟨"x", [.noModuleDirective ⟨"/r/go.mod"⟩]⟩ := by
  have hoverrides : ∀ dir, ¬Overrides Config.unset dir :=
    fun dir => not_overrides_of_modulePath rfl
  have hdir : packageDir nested ⟨"/r/a/b/c/f.go"⟩ = ⟨"/r/a/b/c"⟩ := by decide +kernel
  have hother : packageDir nestedInNone ⟨"/r/x/f.go"⟩ = ⟨"/r/x"⟩ := by decide +kernel
  have hreads : Reads nestedInNone (⟨"/r/x"⟩ : Path).ancestors ⟨"/r"⟩ "go 1.22\n" := by
    refine ⟨[⟨"/r/x"⟩], [⟨"/"⟩], by decide +kernel, ?_, World.readText_of_readBytes rfl⟩
    have hnone : nestedInNone.readText ((⟨"/r/x"⟩ : Path).join moduleFileName)
        = .error .notFound := rfl
    intro b hb s
    rw [List.mem_singleton.mp hb, hnone]
    exact nofun
  obtain ⟨rel, hrel, hpath, -, hchange⟩ :=
    importPath_of_nearest (hoverrides _) (hdir.symm ▸ reads_nested)
  obtain ⟨-, -, -, hnone, -⟩ := importPath_of_nearest (hoverrides _) (hother.symm ▸ hreads)
  obtain rfl : rel = [.name "b", .name "c"] := by
    have hsplit : (⟨"/r/a/b/c"⟩ : Path).components
        = (⟨"/r/a"⟩ : Path).components ++ [.name "b", .name "c"] := by decide +kernel
    rw [hdir, hsplit] at hrel
    exact (List.append_cancel_left hrel).symm
  have hinner := (hpath "m/".toList (by decide +kernel)).trans
    (congrArg Told.quiet (by decide +kernel : _ = "m/b/c"))
  refine ⟨hinner, ?_, ?_⟩
  · rw [hchange (by rw [hdir]; decide +kernel) nestedInNone differsAbove_nested]
    exact hinner
  · have hname : byLaterRules Config.unset ⟨"/r/x"⟩ = "x" := by decide +kernel
    have hfile : (⟨"/r"⟩ : Path).join moduleFileName = ⟨"/r/go.mod"⟩ := by decide +kernel
    rw [hnone (by decide +kernel), hother, hname, hfile]

end Import

end GoStructs
