import GoStructs.Proofs.Import.ModuleFiles
import GoStructs.Proofs.Import.Workspaces
/-! # Detours

A path makes a detour where it enters a directory and leaves it by `..` at once.  With a detour or
without, the path leads to the same file.  Import paths are read off the steps as they are written,
though: a `..` is passed over, but the name that it takes back is not.  So whatever rule applies, it
does not matter which detours the path makes before it comes to where the rule begins to read for
the last time; behind that, each detour shows.

Rule 1 and rule 3 ask whether the directory is below another one, which they compare step by step,
so there a detour counts wherever it is.  Rule 2 reads files, so it knows a directory however it is
spelled; but it also reads module files in directories that the path only passes.

## Main statements

* `readsIn_iff`, `readsIn_direct_iff`: the module file that is read, with detours and without.
* `module_of_detours`: a module that is found both ways has the same steps below it, but for
  detours.
* `importPath_of_detours`: what detours do to the import path, rule by rule.
* `importPath_of_passing`: a file that is reached by a detour gets another import path. -/

namespace GoStructs

open GoStructs.Path (Component direct follow spelled IsLast IsNearestAbove IsWritten)
open GoStructs.World (IsFileName)

namespace Path

/-- The path below another one is what its steps add. -/
theorem below?_of_isAbsolute {p base : Path} (hp : p.isAbsolute) (hbase : base.isAbsolute) :
    p.below? base = if base.steps <+: p.steps then some (p.steps.drop base.steps.length)
      else none := by
  unfold below? stripComponents
  rw [components_of_isAbsolute hp, components_of_isAbsolute hbase]
  simp [List.isPrefixOf_iff_prefix]

end Path

namespace Import

variable {w : World} {c : Config} {p p' dir dir' root : Path} {place q : Place}
  {rel : List Component}

/-! ## Files and their directories -/

/-- The directory of an absolute path has all of its steps but the last. -/
theorem packageDir_of_isAbsolute {p : Path} (habs : p.isAbsolute) (hne : p.steps ≠ []) :
    (packageDir w p).isAbsolute ∧ (packageDir w p).steps = p.steps.dropLast
      ∧ (packageDir w p).text.toList <+: p.text.toList := by
  obtain ⟨d, hd, hsteps, hdabs, hpre⟩ := Path.exists_parent hne
  have hdabs := hdabs.trans habs
  rw [packageDir, hd, Option.getD_some, World.absolute_of_isAbsolute hdabs]
  exact ⟨hdabs, hsteps, hpre⟩

/-- Both paths lead to files, and the second is the first without its detours. -/
structure Straightens (w : World) (p p' : Path) : Prop where
  left : p.isAbsolute
  right : p'.isAbsolute
  steps : p'.steps = direct p.steps
  file : ∃ bytes, w.readBytes p = .ok bytes
  file' : ∃ bytes, w.readBytes p' = .ok bytes

/-- Without its detours a path leads to the same file. -/
theorem Straightens.readBytes {p p' : Path} (h : Straightens w p p') :
    w.readBytes p' = w.readBytes p := by
  obtain ⟨bytes, hbytes⟩ := h.file
  obtain ⟨bytes', hbytes'⟩ := h.file'
  obtain ⟨place, hplace⟩ := World.resolve_of_readBytes hbytes
  obtain ⟨place', hplace'⟩ := World.resolve_of_readBytes hbytes'
  have hwalk := World.walk_steps_of_resolve h.left hplace
  have hwalk' := World.walk_steps_of_resolve h.right hplace'
  have hdirect := World.walk_direct (fun c hc => Path.isWritten_of_mem_steps hc) hwalk
  rw [h.steps, hdirect] at hwalk'
  cases hwalk'
  rw [hbytes, hbytes']

/-- The steps to a file end in a name. -/
theorem exists_name_of_readBytes {p : Path} {bytes : ByteArray} (habs : p.isAbsolute)
    (h : w.readBytes p = .ok bytes) : ∃ cs s, p.steps = cs ++ [.name s] := by
  obtain ⟨place, hplace⟩ := World.resolve_of_readBytes h
  have hwalk := World.walk_steps_of_resolve habs hplace
  rcases List.eq_nil_or_concat p.steps with hnil | ⟨cs, c, hc⟩
  · rw [hnil] at hwalk
    cases hwalk
  · rw [List.concat_eq_append] at hc
    have hwritten : IsWritten c := Path.isWritten_of_mem_steps (by rw [hc]; simp)
    cases c with
    | name s => exact ⟨cs, s, hc⟩
    | root | here => cases hwritten.component
    | up =>
      -- behind `..` there is a directory
      rw [hc, List.map_append] at hwalk
      have := World.directory_of_walk_up hwalk
      cases this

/-- Both paths lead to the directory of a file, and the second is the first without its detours. -/
structure StraightensDir (w : World) (dir dir' : Path) : Prop where
  left : dir.isAbsolute
  right : dir'.isAbsolute
  steps : dir'.steps = direct dir.steps
  walk : w.walk [] (dir.steps.map spelled) = .ok (follow [] dir.steps, .directory)
  nul : '\x00' ∉ dir.text.toList

/-- The directories of two such files are the same but for detours, and the files have the same name
in them. -/
theorem Straightens.dirs (h : Straightens w p p') :
    StraightensDir w (packageDir w p) (packageDir w p')
      ∧ (packageDir w p).steps = p.steps.dropLast
      ∧ (packageDir w p').steps = p'.steps.dropLast
      ∧ ((packageDir w p').steps = (packageDir w p).steps ↔ p'.steps = p.steps) := by
  obtain ⟨bytes, hbytes⟩ := h.file
  obtain ⟨cs, s, hsteps⟩ := exists_name_of_readBytes h.left hbytes
  have hsteps' : p'.steps = direct cs ++ [.name s] := by
    rw [h.steps, hsteps, Path.direct_append_name]
  obtain ⟨habs, hdir, hpre⟩ := packageDir_of_isAbsolute (w := w) h.left (by simp [hsteps])
  obtain ⟨habs', hdir', -⟩ := packageDir_of_isAbsolute (w := w) h.right (by simp [hsteps'])
  obtain ⟨place, hplace⟩ := World.resolve_of_readBytes hbytes
  obtain ⟨-, -, -, hnul, -⟩ := World.walk_of_resolve hplace
  have hwalk := World.walk_steps_of_resolve h.left hplace
  refine ⟨⟨habs, habs', ?_, ?_, fun hmem => hnul (hpre.subset hmem)⟩, hdir, hdir', ?_⟩
  · rw [hdir, hdir', hsteps, hsteps', List.dropLast_concat, List.dropLast_concat]
  · rw [hdir, hsteps, List.dropLast_concat]
    rw [hsteps] at hwalk
    refine World.walk_follow (fun c hc => ?_) (by simp) hwalk
    exact Path.isWritten_of_mem_steps (p := p) (by simp [hsteps, hc])
  · rw [hdir, hdir', hsteps, hsteps', List.dropLast_concat, List.dropLast_concat,
      List.append_left_inj]

theorem isWritten_of_steps {front : List Component} (hsplit : dir.steps = front ++ rel) :
    ∀ d ∈ rel, IsWritten d := fun d hd =>
  Path.isWritten_of_mem_steps (p := dir) (by simp [hsplit, hd])

theorem StraightensDir.leads (h : StraightensDir w dir dir')
    (hsize : (dir.join moduleFileName).text.utf8ByteSize < World.pathLimit) :
    w.Leads moduleFileName dir (follow [] dir.steps) :=
  ⟨h.left, h.walk, h.nul, hsize⟩

theorem StraightensDir.leads' (h : StraightensDir w dir dir')
    (hsize : (dir.join moduleFileName).text.utf8ByteSize < World.pathLimit)
    (hsize' : (dir'.join moduleFileName).text.utf8ByteSize < World.pathLimit) :
    w.Leads moduleFileName dir' (follow [] dir.steps) :=
  (h.leads hsize).straight h.right h.steps hsize'

/-- Below a directory that is spelled the same in both paths, the steps are the same but for
detours. -/
theorem StraightensDir.direct_of_components (h : StraightensDir w dir dir')
    {base rel rel' : List Component} (hrel : dir.components = base ++ rel)
    (hrel' : dir'.components = base ++ rel') (hbase : base ≠ []) :
    ∃ front, dir.steps = front ++ rel ∧ dir'.steps = front ++ rel'
      ∧ direct (front ++ rel) = front ++ rel' := by
  obtain ⟨b, front, rfl⟩ := List.exists_cons_of_ne_nil hbase
  rw [Path.components_of_isAbsolute h.left] at hrel
  rw [Path.components_of_isAbsolute h.right] at hrel'
  have hsteps : dir.steps = front ++ rel := (List.cons.inj hrel).2
  have hsteps' : dir'.steps = front ++ rel' := (List.cons.inj hrel').2
  refine ⟨front, hsteps, hsteps', ?_⟩
  rw [← hsteps, ← h.steps]
  exact hsteps'

/-! ## Rules 1 and 3 -/

/-- At or below the project root, the configuration gives the import path. -/
theorem importPath_of_override {m : String} {root p : Path} (hm : c.modulePath = some m)
    (hroot : c.projectRoot = some root) (hrootabs : root.isAbsolute)
    (habs : (packageDir w p).isAbsolute) (hbelow : root.steps <+: (packageDir w p).steps) :
    (importPath w c p).value
      = underModule m ((packageDir w p).steps.drop root.steps.length) := by
  have hoverride : byOverride c (packageDir w p)
      = some (underModule m ((packageDir w p).steps.drop root.steps.length)) := by
    simp [byOverride, hm, hroot, Path.below?_of_isAbsolute habs hrootabs, hbelow]
  rw [importPath, ofDirectory, hoverride]
  rfl

/-- Below the project root a file whose path makes a detour gets another import path than the same
file without it. -/
theorem importPath_eq_iff_of_straightens {m : String} {root p p' : Path}
    (hm : c.modulePath = some m) (hroot : c.projectRoot = some root) (hrootabs : root.isAbsolute)
    (h : Straightens w p p') (hbelow : root.steps <+: p.steps.dropLast)
    (hbelow' : root.steps <+: p'.steps.dropLast) :
    (importPath w c p').value = (importPath w c p).value ↔ p'.steps = p.steps := by
  obtain ⟨hdirs, hdir, hdir', hsame⟩ := h.dirs
  rw [← hdir] at hbelow
  rw [← hdir'] at hbelow'
  rw [importPath_of_override hm hroot hrootabs hdirs.left hbelow,
    importPath_of_override hm hroot hrootabs hdirs.right hbelow', ← hsame]
  obtain ⟨rel, hrel⟩ := hbelow
  obtain ⟨rel', hrel'⟩ := hbelow'
  rw [← hrel', ← hrel, List.drop_left, List.drop_left, List.append_right_inj]
  refine underModule_direct_iff m (isWritten_of_steps hrel.symm) (b := root.steps) ?_
  rw [hrel, hrel', hdirs.steps]

/-- In a workspace a file whose path makes a detour gets another import path than the same file
without it. -/
theorem importPath_eq_iff_of_workspace {nearer farther : List Path} (h : Straightens w p p')
    (hoverrides : ¬Overrides c (packageDir w p)) (hoverrides' : ¬Overrides c (packageDir w p'))
    (hm : (moduleOf w (packageDir w p)).value = none)
    (hm' : (moduleOf w (packageDir w p')).value = none)
    (hroots : c.gopathRoots = nearer ++ root :: farther)
    (hnearer : ∀ r ∈ nearer, ¬(packageDir w p).IsBelow (r.join ⟨sourceDirectory⟩))
    (hnearer' : ∀ r ∈ nearer, ¬(packageDir w p').IsBelow (r.join ⟨sourceDirectory⟩))
    (hbelow : (packageDir w p).IsBelow (root.join ⟨sourceDirectory⟩))
    (hbelow' : (packageDir w p').IsBelow (root.join ⟨sourceDirectory⟩)) :
    (importPath w c p').value = (importPath w c p).value ↔ p'.steps = p.steps := by
  obtain ⟨hdirs, -, -, hsame⟩ := h.dirs
  obtain ⟨rel, hne, hrel⟩ := hbelow
  obtain ⟨rel', hne', hrel'⟩ := hbelow'
  have hbase : (root.join ⟨sourceDirectory⟩).components ≠ [] := by
    intro hnil
    have hsize := (Path.size_join (p := root) (q := ⟨sourceDirectory⟩) rfl).1
    have hname : (⟨sourceDirectory⟩ : Path).text.utf8ByteSize = 3 := by decide +kernel
    have hempty : "".utf8ByteSize = 0 := rfl
    rw [Path.text_eq_of_components_eq_nil hnil] at hsize
    omega
  obtain ⟨front, hsteps, hsteps', hdirect⟩ := hdirs.direct_of_components hrel hrel' hbase
  rw [value_importPath_of_no_module hoverrides hm, value_importPath_of_no_module hoverrides' hm',
    byWorkspace_of_first hroots hnearer hrel hne, byWorkspace_of_first hroots hnearer' hrel' hne',
    Option.getD_some, Option.getD_some,
    Path.slashed_direct_iff (isWritten_of_steps hsteps) hdirect, ← hsame, hsteps, hsteps',
    List.append_right_inj]

/-- A project root whose path goes up is above no file whose path does not. -/
theorem importPath_of_up_mem {root p : Path} (hroot : c.projectRoot = some root)
    (hrootabs : root.isAbsolute) (hp : p.isAbsolute) (hne : p.steps ≠ [])
    (hup : .up ∈ root.steps) (hnone : .up ∉ p.steps) :
    importPath w c p = importPath w { c with projectRoot := none } p := by
  obtain ⟨habs, hdir, -⟩ := packageDir_of_isAbsolute (w := w) hp hne
  have hbelow : ¬root.steps <+: (packageDir w p).steps := by
    intro hpre
    apply hnone
    rw [hdir] at hpre
    exact List.mem_of_mem_dropLast (hpre.subset hup)
  have hoverride : byOverride c (packageDir w p) = none := by
    unfold byOverride
    split
    · next m r hm hr =>
      obtain rfl : root = r := Option.some.inj (hroot.symm.trans hr)
      rw [Path.below?_of_isAbsolute habs hrootabs, if_neg hbelow]
      rfl
    · rfl
  have hoverride' : byOverride { c with projectRoot := none } (packageDir w p) = none := by
    simp [byOverride]
  rw [importPath, importPath, ofDirectory, ofDirectory, hoverride, hoverride']
  rfl

/-! ## Rule 2 -/

theorem isFileName : IsFileName moduleFileName moduleFileName.text :=
  ⟨isAbsolute_moduleFileName, steps_moduleFileName, isStep_moduleFileName, by decide +kernel, rfl,
    by decide +kernel, by decide +kernel⟩

/-- The directory holds a module file, and this is its text. -/
def HoldsText (w : World) (q : Place) (text : String) : Prop :=
  ∃ bytes, w.entry? (q ++ [moduleFileName.text]) = some (.file bytes)
    ∧ String.fromUTF8? bytes = some text

/-- The directory holds a module file that can be read. -/
def HoldsModule (w : World) (q : Place) : Prop := ∃ text, HoldsText w q text

theorem readText_join_iff {a : Path} {text : String} (h : w.Leads moduleFileName dir place)
    (ha : a ∈ dir.ancestors) :
    w.readText (a.join moduleFileName) = .ok text ↔ HoldsText w (follow [] a.steps) text := by
  constructor
  · intro hread
    obtain ⟨bytes, hbytes, htext⟩ : ∃ bytes, w.readBytes (a.join moduleFileName) = .ok bytes
        ∧ String.fromUTF8? bytes = some text := by
      unfold World.readText at hread
      split at hread
      · cases hread
      · next bytes hbytes =>
        refine ⟨bytes, hbytes, ?_⟩
        split at hread
        · next s hs => rw [hs, Except.ok.inj hread]
        · cases hread
    obtain ⟨target, htarget⟩ := World.resolve_of_readBytes hbytes
    exact ⟨bytes, ((h.resolve_eq_file_iff isFileName ha).mp htarget).2, htext⟩
  · rintro ⟨bytes, hbytes, htext⟩
    have hfile := (h.resolve_eq_file_iff isFileName ha).mpr ⟨rfl, hbytes⟩
    simp only [World.readText, World.readBytes, hfile, htext]

/-- The module file that is read for `dir` is the one in the directory at the place `q`. -/
def ReadsIn (w : World) (dir : Path) (q : Place) : Prop :=
  ∃ a text, Reads w dir.ancestors a text ∧ follow [] a.steps = q

/-- The module file that is read stands where the path passes a directory with one for the last
time. -/
theorem isLast_of_reads {a : Path} {text : String} (h : w.Leads moduleFileName dir place)
    (hreads : Reads w dir.ancestors a text) :
    IsLast (HoldsModule w) dir.steps a.steps ∧ HoldsText w (follow [] a.steps) text := by
  obtain ⟨nearer, farther, hsplit, hnearer, hread⟩ := hreads
  have htext := (readText_join_iff h (by simp [hsplit])).mp hread
  refine ⟨Path.isLast_of_ancestors h.absolute hsplit ⟨text, htext⟩ ?_, htext⟩
  rintro b hb ⟨s, hs⟩
  exact hnearer b hb s ((readText_join_iff h (by simp [hsplit, hb])).mpr hs)

theorem readsIn_iff (h : w.Leads moduleFileName dir place) :
    ReadsIn w dir q ↔ ∃ P, IsLast (HoldsModule w) dir.steps P ∧ follow [] P = q := by
  constructor
  · rintro ⟨a, text, hreads, rfl⟩
    exact ⟨a.steps, (isLast_of_reads h hreads).1, rfl⟩
  · rintro ⟨P, hP, rfl⟩
    obtain ⟨nearer, a, farther, hsplit, rfl, ⟨text, htext⟩, hnearer⟩ :=
      hP.exists_ancestor h.absolute
    refine ⟨a, text, ⟨nearer, farther, hsplit, ?_, ?_⟩, rfl⟩
    · intro b hb s hs
      exact hnearer b hb ⟨s, (readText_join_iff h (by simp [hsplit, hb])).mp hs⟩
    · exact (readText_join_iff h (by simp [hsplit])).mpr htext

/-- Without detours the module file is the nearest one at or above the directory. -/
theorem readsIn_direct_iff (h : w.Leads moduleFileName dir place)
    (h' : w.Leads moduleFileName dir' place) (hsteps : dir'.steps = direct dir.steps) :
    ReadsIn w dir' q ↔ IsNearestAbove (HoldsModule w) place q := by
  rw [readsIn_iff h', hsteps, ← h.place_eq]
  exact Path.exists_isLast_direct_iff fun c hc => Path.isWritten_of_mem_steps hc

/-- A module that is found with the detours and without has one module path, and the steps below its
root are the same but for detours. -/
theorem module_of_detours {m m' : Module} (h : w.Leads moduleFileName dir place)
    (h' : w.Leads moduleFileName dir' place) (hsteps : dir'.steps = direct dir.steps)
    (hm : (moduleOf w dir).value = some m) (hm' : (moduleOf w dir').value = some m')
    (hroot : follow [] m'.root.steps = follow [] m.root.steps) :
    m'.path = m.path ∧ ∃ rel, dir.steps = m.root.steps ++ rel
      ∧ dir'.steps = m'.root.steps ++ direct rel := by
  obtain ⟨text, hreads⟩ := exists_reads_of_moduleAmong hm
  obtain ⟨text', hreads'⟩ := exists_reads_of_moduleAmong hm'
  obtain ⟨hP, bytes, hbytes, htext⟩ := isLast_of_reads h hreads
  obtain ⟨hP', bytes', hbytes', htext'⟩ := isLast_of_reads h' hreads'
  -- without detours the root is above the directory
  have habove : follow [] m.root.steps <+: follow [] dir.steps := by
    rw [h.place_eq, ← hroot]
    exact ((readsIn_direct_iff h h' hsteps).mp ⟨_, _, hreads', rfl⟩).above
  refine ⟨?_, ?_⟩
  · rw [hroot, hbytes] at hbytes'
    obtain rfl : bytes = bytes' := by simpa using hbytes'
    obtain rfl : text = text' := Option.some.inj (htext.symm.trans htext')
    rw [moduleOf, moduleAmong_of_reads hreads] at hm
    rw [moduleOf, moduleAmong_of_reads hreads'] at hm'
    cases hpath : moduleDirective? text.toList with
    | none =>
      rw [hpath] at hm
      cases hm
    | some path =>
      rw [hpath] at hm hm'
      rw [← Option.some.inj hm, ← Option.some.inj hm']
  · have hroots : m'.root.steps = direct m.root.steps := by
      rw [hsteps] at hP'
      exact hP'.unique (hP.direct (fun c hc => Path.isWritten_of_mem_steps hc) habove)
    obtain ⟨rest, hrest, hholds, hlast⟩ := hP
    obtain ⟨ns, hns⟩ := IsLast.exists_names
      (fun c hc => Path.isWritten_of_mem_steps (p := dir) (by simp [hrest, hc])) hholds hlast
      (hrest ▸ habove)
    refine ⟨rest, hrest, ?_⟩
    rw [hsteps, hrest, Path.direct_append_of_names _ hns, hroots, hns]

theorem steps_of_module {m : Module} (habs : dir.isAbsolute) (hm : (moduleOf w dir).value = some m)
    (h : dir.components = m.root.components ++ rel) : dir.steps = m.root.steps ++ rel := by
  have hroot := (Path.isAbsolute_of_mem_ancestors habs (root_mem_of_moduleAmong hm)).1
  rw [Path.components_of_isAbsolute habs, Path.components_of_isAbsolute hroot] at h
  exact (List.cons.inj h).2

/-- Below the root of a module that is found both ways, a file whose path makes a detour does not get
the import path of the same file without it. -/
theorem importPath_eq_iff_of_module {m m' : Module} (h : Straightens w p p')
    (hsize : ((packageDir w p).join moduleFileName).text.utf8ByteSize < World.pathLimit)
    (hsize' : ((packageDir w p').join moduleFileName).text.utf8ByteSize < World.pathLimit)
    (hoverrides : ¬Overrides c (packageDir w p)) (hoverrides' : ¬Overrides c (packageDir w p'))
    (hm : (moduleOf w (packageDir w p)).value = some m)
    (hm' : (moduleOf w (packageDir w p')).value = some m')
    (hroot : follow [] m'.root.steps = follow [] m.root.steps) :
    ∃ rel, (packageDir w p).steps = m.root.steps ++ rel
      ∧ ((importPath w c p').value = (importPath w c p).value ↔ direct rel = rel) := by
  obtain ⟨hdirs, -⟩ := h.dirs
  obtain ⟨hpath, rel, hsteps, hsteps'⟩ := module_of_detours (hdirs.leads hsize)
    (hdirs.leads' hsize hsize') hdirs.steps hm hm' hroot
  refine ⟨rel, hsteps, ?_⟩
  obtain ⟨cs, hcs, hvalue⟩ := importPath_of_module hoverrides hm
  obtain ⟨cs', hcs', hvalue'⟩ := importPath_of_module hoverrides' hm'
  obtain rfl : cs = rel :=
    List.append_cancel_left ((steps_of_module hdirs.left hm hcs).symm.trans hsteps)
  obtain rfl : cs' = direct cs :=
    List.append_cancel_left ((steps_of_module hdirs.right hm' hcs').symm.trans hsteps')
  rw [hvalue, hvalue', hpath]
  exact underModule_direct_iff m.path (isWritten_of_steps hsteps) (b := []) rfl

/-! ## Rules 4 and 5 -/

/-- The last directory named `src` is the same without detours, unless a detour takes it back. -/
theorem StraightensDir.lastSource (h : StraightensDir w dir dir') (hlast : LastSource dir rel)
    (hup : .up ∉ direct rel) : LastSource dir' (direct rel) := by
  obtain ⟨front, hfront, hnot⟩ := hlast
  rw [Path.components_of_isAbsolute h.left] at hfront
  cases front with
  | nil => cases hfront
  | cons b front =>
    have hsteps : dir.steps = front ++ .name sourceDirectory :: rel := (List.cons.inj hfront).2
    have hwritten : ∀ d ∈ direct rel, IsWritten d := fun d hd =>
      isWritten_of_steps hsteps d (List.mem_cons_of_mem _ ((Path.direct_sublist rel).subset hd))
    have hnames := Path.map_names hwritten hup
    have hsource : direct (.name sourceDirectory :: rel)
        = (sourceDirectory :: Path.names (direct rel)).map .name := by
      rw [List.map_cons, hnames]
      apply Path.direct_name
      rintro rest hrest
      exact hup (hrest ▸ List.mem_cons_self)
    refine ⟨.root :: direct front, ?_, fun hmem => hnot ((Path.direct_sublist rel).subset hmem)⟩
    rw [Path.components_of_isAbsolute h.right, h.steps, hsteps,
      Path.direct_append_of_names front hsource, List.map_cons, hnames]
    rfl

/-- Behind the last directory named `src` each detour shows. -/
theorem importPath_eq_iff_of_source (h : Straightens w p p')
    (hunruled : IsUnruled w c (packageDir w p)) (hunruled' : IsUnruled w c (packageDir w p'))
    (hlast : LastSource (packageDir w p) rel) (hup : .up ∉ direct rel) (hne : direct rel ≠ []) :
    (importPath w c p').value = (importPath w c p).value ↔ direct rel = rel := by
  obtain ⟨hdirs, -⟩ := h.dirs
  have hrel : rel ≠ [] := by
    rintro rfl
    exact hne rfl
  have hwritten : ∀ d ∈ rel, IsWritten d := by
    obtain ⟨front, hfront, -⟩ := hlast
    rw [Path.components_of_isAbsolute hdirs.left] at hfront
    intro d hd
    cases front with
    | nil => cases hfront
    | cons b front => exact isWritten_of_steps (List.cons.inj hfront).2 d (List.mem_cons_of_mem _ hd)
  rw [value_importPath_of_no_module hunruled.override hunruled.module,
    value_importPath_of_no_module hunruled'.override hunruled'.module,
    byWorkspace_eq_none hunruled.workspace, byWorkspace_eq_none hunruled'.workspace,
    bySource_of_last hlast hrel, bySource_of_last (hdirs.lastSource hlast hup) hne]
  exact Path.slashed_direct_iff hwritten (b := []) rfl

/-- A path that ends with a step up names no directory. -/
theorem byName_of_isAbsolute (habs : dir.isAbsolute) :
    byName dir = match dir.steps.getLast? with
      | some (.name s) => s
      | _ => "" := by
  rw [byName, Path.fileName?, Path.components_of_isAbsolute habs]
  rcases List.eq_nil_or_concat dir.steps with hnil | ⟨cs, c, hc⟩
  · rw [hnil]
    rfl
  · rw [hc, List.concat_eq_append, ← List.cons_append, List.getLast?_concat, List.getLast?_concat]
    cases c <;> rfl

/-- The name of a directory shows no detour, unless the path ends with one. -/
theorem importPath_eq_iff_of_name (h : Straightens w p p')
    (hunruled : IsUnruled w c (packageDir w p)) (hunruled' : IsUnruled w c (packageDir w p'))
    (hlast : ∀ rel, LastSource (packageDir w p) rel → rel = [])
    (hlast' : ∀ rel, LastSource (packageDir w p') rel → rel = []) :
    (importPath w c p').value = (importPath w c p).value
      ↔ (packageDir w p).steps.getLast? ≠ some .up ∨ follow [] (packageDir w p).steps = [] := by
  obtain ⟨hdirs, -⟩ := h.dirs
  rw [value_importPath_of_no_module hunruled.override hunruled.module,
    value_importPath_of_no_module hunruled'.override hunruled'.module,
    byWorkspace_eq_none hunruled.workspace, byWorkspace_eq_none hunruled'.workspace,
    bySource_eq_none hlast, bySource_eq_none hlast', Option.getD_none, Option.getD_none,
    Option.getD_none, Option.getD_none, byName_of_isAbsolute hdirs.left,
    byName_of_isAbsolute hdirs.right, hdirs.steps]
  have hwritten : ∀ d ∈ (packageDir w p).steps, IsWritten d := fun d hd =>
    Path.isWritten_of_mem_steps hd
  generalize (packageDir w p).steps = cs at hwritten
  rcases List.eq_nil_or_concat cs with rfl | ⟨front, c, rfl⟩
  · simp [direct]
  · rw [List.concat_eq_append] at hwritten ⊢
    have hc : IsWritten c := hwritten c (by simp)
    cases c with
    | root | here => cases hc.component
    | name s => simp [Path.direct_append_name]
    | up =>
      -- without detours the path ends with a name, or at the root
      obtain ⟨k, hdirect⟩ := Path.exists_climb_root hwritten
      rw [hdirect, List.getLast?_concat]
      rcases List.eq_nil_or_concat (follow [] (front ++ [Component.up])) with hnil | ⟨ns, s, hns⟩
      · simp [hnil, List.getLast?_replicate]
      · have hs : IsWritten (.name s) := by
          apply hwritten
          apply (Path.direct_sublist _).subset
          simp [hdirect, hns]
        simp [hns, hs.ne_empty]

/-! ## All rules -/

/-- What the detours of the path to a file do to its import path, rule by rule; `p'` is the path
without them. -/
structure ShowsDetours (w : World) (c : Config) (p p' : Path) : Prop where
  /-- It is the same file. -/
  file : w.readBytes p' = w.readBytes p
  /-- Below the project root the import paths are the same just if there are no detours. -/
  override : ∀ m root, c.modulePath = some m → c.projectRoot = some root → root.isAbsolute →
    root.steps <+: p.steps.dropLast → root.steps <+: p'.steps.dropLast →
    ((importPath w c p').value = (importPath w c p).value ↔ p'.steps = p.steps)
  /-- Without detours the module file that is read is the nearest one at or above the directory.
  With them it stands in the last directory with one that the path passes.  That is the same
  directory just if it is at or above that of the file. -/
  moduleFile : ((packageDir w p).join moduleFileName).text.utf8ByteSize < World.pathLimit →
    ((packageDir w p').join moduleFileName).text.utf8ByteSize < World.pathLimit →
    (∀ q, ReadsIn w (packageDir w p') q
        ↔ IsNearestAbove (HoldsModule w) (follow [] (packageDir w p).steps) q)
      ∧ (∀ q, ReadsIn w (packageDir w p) q
        ↔ ∃ P, IsLast (HoldsModule w) (packageDir w p).steps P ∧ follow [] P = q)
      ∧ ∀ q, ReadsIn w (packageDir w p) q →
        (ReadsIn w (packageDir w p') q ↔ q <+: follow [] (packageDir w p).steps)
  /-- If the module is the same, then the import paths are the same just if there are no detours
  behind where the path passes the root of the module for the last time. -/
  module : ((packageDir w p).join moduleFileName).text.utf8ByteSize < World.pathLimit →
    ((packageDir w p').join moduleFileName).text.utf8ByteSize < World.pathLimit →
    ¬Overrides c (packageDir w p) → ¬Overrides c (packageDir w p') →
    ∀ m m', (moduleOf w (packageDir w p)).value = some m →
      (moduleOf w (packageDir w p')).value = some m' →
      follow [] m'.root.steps = follow [] m.root.steps →
      ∃ rel, (packageDir w p).steps = m.root.steps ++ rel
        ∧ ((importPath w c p').value = (importPath w c p).value ↔ direct rel = rel)
  /-- In the same workspace the import paths are the same just if there are no detours. -/
  workspace : ¬Overrides c (packageDir w p) → ¬Overrides c (packageDir w p') →
    (moduleOf w (packageDir w p)).value = none → (moduleOf w (packageDir w p')).value = none →
    ∀ nearer root farther, c.gopathRoots = nearer ++ root :: farther →
      (∀ r ∈ nearer, ¬(packageDir w p).IsBelow (r.join ⟨sourceDirectory⟩)) →
      (∀ r ∈ nearer, ¬(packageDir w p').IsBelow (r.join ⟨sourceDirectory⟩)) →
      (packageDir w p).IsBelow (root.join ⟨sourceDirectory⟩) →
      (packageDir w p').IsBelow (root.join ⟨sourceDirectory⟩) →
      ((importPath w c p').value = (importPath w c p).value ↔ p'.steps = p.steps)
  /-- If no detour takes the last directory named `src` back, then the import paths are the same
  just if there are no detours behind it. -/
  source : IsUnruled w c (packageDir w p) → IsUnruled w c (packageDir w p') →
    ∀ rel, LastSource (packageDir w p) rel → .up ∉ direct rel → direct rel ≠ [] →
      ((importPath w c p').value = (importPath w c p).value ↔ direct rel = rel)
  /-- The name of the directory is the same, unless its path ends with a step up. -/
  name : IsUnruled w c (packageDir w p) → IsUnruled w c (packageDir w p') →
    (∀ rel, LastSource (packageDir w p) rel → rel = []) →
    (∀ rel, LastSource (packageDir w p') rel → rel = []) →
    ((importPath w c p').value = (importPath w c p).value
      ↔ (packageDir w p).steps.getLast? ≠ some .up ∨ follow [] (packageDir w p).steps = [])

theorem Straightens.showsDetours (h : Straightens w p p') : ShowsDetours w c p p' where
  file := h.readBytes
  override m root hm hroot hrootabs hbelow hbelow' :=
    importPath_eq_iff_of_straightens hm hroot hrootabs h hbelow hbelow'
  moduleFile hsize hsize' := by
    obtain ⟨hdirs, -⟩ := h.dirs
    have hleads := hdirs.leads hsize
    have hnearest : ∀ q, ReadsIn w (packageDir w p') q
        ↔ IsNearestAbove (HoldsModule w) (follow [] (packageDir w p).steps) q := fun q =>
      readsIn_direct_iff hleads (hdirs.leads' hsize hsize') hdirs.steps
    refine ⟨hnearest, fun q => readsIn_iff hleads, fun q hq => ?_⟩
    rw [hnearest]
    constructor
    · intro hq'
      exact hq'.above
    · intro habove
      obtain ⟨P, hP, rfl⟩ := (readsIn_iff hleads).mp hq
      exact hP.isNearestAbove habove
  module hsize hsize' hoverrides hoverrides' m m' hm hm' hroot :=
    importPath_eq_iff_of_module h hsize hsize' hoverrides hoverrides' hm hm' hroot
  workspace hoverrides hoverrides' hm hm' nearer root farther hroots hnearer hnearer' hbelow
      hbelow' :=
    importPath_eq_iff_of_workspace h hoverrides hoverrides' hm hm' hroots hnearer hnearer' hbelow
      hbelow'
  source hunruled hunruled' rel hlast hup hne :=
    importPath_eq_iff_of_source h hunruled hunruled' hlast hup hne
  name hunruled hunruled' hlast hlast' :=
    importPath_eq_iff_of_name h hunruled hunruled' hlast hlast'

/-- A workspace whose path goes up holds no package whose path does not. -/
theorem not_isBelow_of_up_mem (habs : dir.isAbsolute) (hrootabs : root.isAbsolute)
    (hup : .up ∈ root.steps) (hnone : .up ∉ dir.steps) :
    ¬dir.IsBelow (root.join ⟨sourceDirectory⟩) := by
  rintro ⟨rel, -, hrel⟩
  rw [Path.components_of_isAbsolute habs,
    Path.components_of_isAbsolute (Path.isAbsolute_join hrootabs rfl), Path.steps_join rfl] at hrel
  have hsteps := (List.cons.inj hrel).2
  apply hnone
  rw [hsteps]
  simp [hup]

/-- What detours do.  Each rule tells apart the detours that the path makes behind where the rule
begins to read; and a project root or a workspace whose path goes up is above no file whose path
does not. -/
theorem importPath_of_detours (hp : p.isAbsolute) (hfile : ∃ bytes, w.readBytes p = .ok bytes) :
    (∀ p', Straightens w p p' → ShowsDetours w c p p')
      ∧ (.up ∉ p.steps →
        (∀ root, c.projectRoot = some root → root.isAbsolute → .up ∈ root.steps →
            importPath w c p = importPath w { c with projectRoot := none } p)
          ∧ ∀ root ∈ c.gopathRoots, root.isAbsolute → .up ∈ root.steps →
            ¬(packageDir w p).IsBelow (root.join ⟨sourceDirectory⟩)) := by
  refine ⟨fun p' h => h.showsDetours, fun hnone => ?_⟩
  obtain ⟨bytes, hbytes⟩ := hfile
  obtain ⟨cs, s, hsteps⟩ := exists_name_of_readBytes hp hbytes
  have hne : p.steps ≠ [] := by simp [hsteps]
  obtain ⟨habs, hdir, -⟩ := packageDir_of_isAbsolute (w := w) hp hne
  constructor
  · intro root hroot hrootabs hup
    exact importPath_of_up_mem hroot hrootabs hp hne hup hnone
  · intro root _ hrootabs hup
    apply not_isBelow_of_up_mem habs hrootabs hup
    rw [hdir]
    exact fun hmem => hnone (List.mem_of_mem_dropLast hmem)

/-- A module with two packages side by side. -/
def sideBySide : World where
  entries := [(["r"], .directory), (["r", "go.mod"], .file "module m\n".toUTF8),
    (["r", "a"], .directory), (["r", "b"], .directory),
    (["r", "b", "f.go"], .file "package b\n".toUTF8)]
  current := some []
  environment := []

theorem straightens_sideBySide :
    Straightens sideBySide ⟨"/r/a/../b/f.go"⟩ ⟨"/r/b/f.go"⟩ :=
  ⟨by decide +kernel, by decide +kernel, by decide +kernel, ⟨_, rfl⟩, ⟨_, rfl⟩⟩

/-- The way to the second package leads through the first.  That shows below a project root, but not
below the root of the module, to which the path comes back behind the detour.  A project root that
is given as the directory above the first package might as well not be given. -/
theorem importPath_of_detours_sideBySide :
    (importPath sideBySide ⟨none, some "m", some ⟨"/r"⟩⟩ ⟨"/r/a/../b/f.go"⟩).value
        ≠ (importPath sideBySide ⟨none, some "m", some ⟨"/r"⟩⟩ ⟨"/r/b/f.go"⟩).value
      ∧ sideBySide.readBytes ⟨"/r/b/f.go"⟩ = sideBySide.readBytes ⟨"/r/a/../b/f.go"⟩
      ∧ (importPath sideBySide Config.unset ⟨"/r/b/f.go"⟩).value
        = (importPath sideBySide Config.unset ⟨"/r/a/../b/f.go"⟩).value
      ∧ importPath sideBySide ⟨none, some "m", some ⟨"/r/a/.."⟩⟩ ⟨"/r/b/f.go"⟩
        = importPath sideBySide ⟨none, some "m", none⟩ ⟨"/r/b/f.go"⟩ := by
  have hshows := (importPath_of_detours (c := ⟨none, some "m", some ⟨"/r"⟩⟩) (by decide +kernel)
    straightens_sideBySide.file).1 _ straightens_sideBySide
  have hpath := hshows.override "m" ⟨"/r"⟩ rfl rfl (by decide +kernel) (by decide +kernel)
    (by decide +kernel)
  have hsteps : (⟨"/r/b/f.go"⟩ : Path).steps ≠ (⟨"/r/a/../b/f.go"⟩ : Path).steps := by
    decide +kernel
  refine ⟨fun heq => hsteps (hpath.mp heq.symm), hshows.file, ?_, ?_⟩
  · have hshows := (importPath_of_detours (c := Config.unset) (by decide +kernel)
      straightens_sideBySide.file).1 _ straightens_sideBySide
    obtain ⟨rel, hrel, hpath⟩ := hshows.module (by decide +kernel) (by decide +kernel)
      (not_overrides_of_modulePath rfl) (not_overrides_of_modulePath rfl) ⟨"m", ⟨"/r/a/.."⟩⟩
      ⟨"m", ⟨"/r"⟩⟩ (by decide +kernel) (by decide +kernel) (by decide +kernel)
    have hroot : (packageDir sideBySide ⟨"/r/a/../b/f.go"⟩).steps
        = (⟨"/r/a/.."⟩ : Path).steps ++ [.name "b"] := by decide +kernel
    obtain rfl : rel = [.name "b"] := List.append_cancel_left (hrel.symm.trans hroot)
    exact hpath.mpr rfl
  · exact ((importPath_of_detours (c := ⟨none, some "m", some ⟨"/r/a/.."⟩⟩) (by decide +kernel)
      straightens_sideBySide.file').2 (by decide +kernel)).1 ⟨"/r/a/.."⟩ rfl (by decide +kernel)
        (by decide +kernel)

/-- The same file, reached by a detour through the first package and without it: the detour stays in
the import path. -/
theorem importPath_of_passing :
    Straightens sideBySide ⟨"/r/a/../b/f.go"⟩ ⟨"/r/b/f.go"⟩
      ∧ (importPath sideBySide ⟨none, some "m", some ⟨"/r"⟩⟩ ⟨"/r/a/../b/f.go"⟩).value = "m/a/b"
      ∧ (importPath sideBySide ⟨none, some "m", some ⟨"/r"⟩⟩ ⟨"/r/b/f.go"⟩).value = "m/b" :=
  ⟨straightens_sideBySide, by decide +kernel, by decide +kernel⟩

end Import

end GoStructs
