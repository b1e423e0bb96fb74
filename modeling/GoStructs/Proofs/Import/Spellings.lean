import GoStructs.Import.Resolve
import GoStructs.Proofs.Config.Layers
import GoStructs.Proofs.World.Walks
/-! # Spellings of a directory

Neither the configuration for a directory nor its import path depends on how the directory is
spelled: slashes and dots that lead nowhere may be put in or left out, as long as the paths of the
files that are looked for do not get too long.

## Main statements

* `SameDirectory.ancestors`: two spellings of a directory go up through the same directories.
* `Config.load_agrees`: the configurations for two spellings of a directory agree.
* `Import.value_ofDirectory`: two spellings of a directory have one import path. -/

namespace GoStructs

open GoStructs.Path (Same)

/-- The two paths spell one directory, and both can be followed to a configuration file in it. -/
structure SameDirectory (d e : Path) : Prop extends Same d e where
  leftSize : (d.join Config.fileName).text.utf8ByteSize < World.pathLimit
  rightSize : (e.join Config.fileName).text.utf8ByteSize < World.pathLimit

theorem isAbsolute_fileName : Config.fileName.isAbsolute = false := rfl

theorem steps_fileName : Config.fileName.steps = [.name ".structscan.toml"] := rfl

namespace SameDirectory

variable {w : World} {d e : Path}

/-- Two spellings of a directory go up through the same directories. -/
theorem ancestors (h : SameDirectory d e) : List.Forall₂ SameDirectory d.ancestors e.ancestors :=
  (h.toSame.ancestors_short isAbsolute_fileName h.leftSize h.rightSize).imp
    fun _ _ hab => ⟨hab.1, hab.2.1, hab.2.2⟩

/-- A file is found in a directory however that is spelled, unless its name is too long. -/
theorem resolve_join (h : SameDirectory d e) {name : Path} (hname : name.isAbsolute = false)
    (hlast : ∀ part ∈ name.parts.getLast?, Path.isStep part)
    (hsize : name.text.utf8ByteSize ≤ Config.fileName.text.utf8ByteSize) :
    w.resolve (d.join name) = w.resolve (e.join name) := by
  have hd := Path.size_join_add (p := d) hname isAbsolute_fileName
  have he := Path.size_join_add (p := e) hname isAbsolute_fileName
  have hleft := h.leftSize
  have hright := h.rightSize
  apply World.resolve_join_same h.toSame hname hlast
  · omega
  · omega

theorem resolve_configFile (h : SameDirectory d e) :
    w.resolve (d.join Config.fileName) = w.resolve (e.join Config.fileName) :=
  h.resolve_join isAbsolute_fileName (by decide +kernel) le_rfl

theorem resolve_moduleFile (h : SameDirectory d e) :
    w.resolve (d.join Import.moduleFileName) = w.resolve (e.join Import.moduleFileName) :=
  h.resolve_join (by decide +kernel) (by decide +kernel) (by decide +kernel)

end SameDirectory

/-! ## Configurations -/

namespace Config

variable {w : World}

/-- The two configurations differ at most in how the project root is spelled. -/
structure Agrees (c c' : Config) : Prop where
  gopath : c.gopath = c'.gopath
  modulePath : c.modulePath = c'.modulePath
  projectRoot : c.projectRoot.map Path.components = c'.projectRoot.map Path.components

/-- The configuration files in a directory, under two of its spellings. -/
inductive SameFile : Option Path → Option Path → Prop
  | none : SameFile none none
  | some {d e : Path} : SameDirectory d e →
    SameFile (some (d.join fileName)) (some (e.join fileName))

theorem sameFile_fileFor? {d e : Path} (h : SameDirectory d e) :
    SameFile (fileFor? w d) (fileFor? w e) := by
  unfold fileFor?
  generalize hds : d.ancestors = ds
  generalize hes : e.ancestors = es
  have hdirs : List.Forall₂ SameDirectory ds es := hds ▸ hes ▸ h.ancestors
  clear hds hes
  induction hdirs with
  | nil => exact .none
  | @cons a b as bs hab _ ih =>
    -- the file stands in the nearest directory under both spellings, or under neither
    have hfile : w.isFile (a.join fileName) = w.isFile (b.join fileName) := by
      rw [World.isFile, World.isFile, hab.resolve_configFile]
    rw [List.map_cons, List.map_cons, List.find?_cons, List.find?_cons, hfile]
    cases w.isFile (b.join fileName) with
    | true => exact .some hab
    | false => exact ih

theorem SameFile.says_iff {file file' : Option Path} {entries : List (String × Setting)}
    (h : SameFile file file') : Says w entries file ↔ Says w entries file' := by
  cases h with
  | none => exact Iff.rfl
  | some hdirs =>
    have hread := World.readText_same (w := w) hdirs.resolve_configFile
    rw [Says, Says, hread]

/-- The directory of a file in a directory is that directory. -/
theorem parent?_join_fileName {d : Path} (h : d.isAbsolute) :
    ∃ p, (d.join fileName).parent? = some p ∧ Same p d := by
  have hsteps : (d.join fileName).steps = d.steps ++ [.name ".structscan.toml"] := by
    rw [Path.steps_join isAbsolute_fileName, steps_fileName]
  have habs := Path.isAbsolute_join h isAbsolute_fileName
  obtain ⟨p, hp, hpsteps, hpabs, -⟩ := Path.exists_parent (p := d.join fileName) (by simp [hsteps])
  refine ⟨p, hp, hpabs.trans habs, h, ?_⟩
  rw [hpsteps, hsteps, List.dropLast_concat]

/-- A path means the same behind two spellings of a directory. -/
theorem components_join_of_same {d e : Path} (h : Same d e) (root : Path) :
    (d.join root).components = (e.join root).components := by
  by_cases hroot : root.isAbsolute
  · simp [Path.join, hroot]
  · exact (h.join (Bool.eq_false_iff.mpr hroot)).components

/-- A project root means the same from two spellings of a configuration file, whatever directory the
file is loaded for. -/
theorem components_baseOf_join_of_file {a b : Path} (h : Same a b) (d e root : Path) :
    ((baseOf w d (some (a.join fileName))).join root).components
      = ((baseOf w e (some (b.join fileName))).join root).components := by
  obtain ⟨p, hp, hpa⟩ := parent?_join_fileName h.left
  obtain ⟨q, hq, hqb⟩ := parent?_join_fileName h.right
  unfold baseOf
  rw [Option.bind_some, Option.bind_some, hp, hq]
  split
  · rfl
  · have hsteps := hpa.steps.trans (h.steps.trans hqb.steps.symm)
    exact components_join_of_same ⟨hpa.left, hqb.left, hsteps⟩ root

/-- A project root means the same from two spellings of the directory that it starts from. -/
theorem components_baseOf_join {d e : Path} {file file' : Option Path} (h : Same d e)
    (hfile : SameFile file file') (root : Path) :
    ((baseOf w d file).join root).components = ((baseOf w e file').join root).components := by
  cases hfile with
  | none =>
    unfold baseOf
    split
    · rfl
    · exact components_join_of_same h root
  | some hdirs => exact components_baseOf_join_of_file hdirs.toSame d e root

/-- The two configurations are the same, as far as `g` tells their project roots apart. -/
structure AgreesOn {β : Type} (g : Path → β) (c c' : Config) : Prop where
  gopath : c.gopath = c'.gopath
  modulePath : c.modulePath = c'.modulePath
  projectRoot : c.projectRoot.map g = c'.projectRoot.map g

/-- Two configurations that the same settings give agree, if their project roots start from what is
one directory. -/
theorem IsLayered.agreesOn {β : Type} {g : Path → β} {d e : Path} {file file' : Option Path}
    {entries : List (String × Setting)} {c c' : Config} (h : IsLayered w d file entries c)
    (h' : IsLayered w e file' entries c')
    (hbase : ∀ q, effective? w.environment entries "project_root" = some (.text q) →
      g ((baseOf w d file).join ⟨q⟩) = g ((baseOf w e file').join ⟨q⟩)) :
    AgreesOn g c c' := by
  obtain ⟨root, hroot, hcroot⟩ := h.projectRoot
  obtain ⟨root', hroot', hcroot'⟩ := h'.projectRoot
  -- the texts that count are the same, and each tells the value that is made of it
  have htext : Function.Injective (Option.map Setting.text) :=
    Option.map_injective fun s t hst => Setting.text.inj hst
  have hpath : Function.Injective (Option.map Path.text) :=
    Option.map_injective fun p q hpq => congrArg Path.mk hpq
  obtain rfl : root = root' := htext (hroot.symm.trans hroot')
  refine ⟨hpath (htext (h.gopath.symm.trans h'.gopath)),
    htext (h.modulePath.symm.trans h'.modulePath), ?_⟩
  rw [hcroot, hcroot', Option.map_map, Option.map_map]
  cases root with
  | none => rfl
  | some q => exact congrArg some (hbase q hroot)

/-- The configurations for two directories agree, if their configuration files say the same and the
project root starts from what is one directory. -/
theorem load_agreesOn_of_said {β : Type} {g : Path → β} {d e : Path}
    (hsaid : ∀ entries, Says w entries (fileFor? w (w.absolute d))
      ↔ Says w entries (fileFor? w (w.absolute e)))
    (hbase : ∀ entries q, Says w entries (fileFor? w (w.absolute d)) →
      effective? w.environment entries "project_root" = some (.text q) →
      g ((baseOf w (w.absolute d) (fileFor? w (w.absolute d))).join ⟨q⟩)
        = g ((baseOf w (w.absolute e) (fileFor? w (w.absolute e))).join ⟨q⟩)) :
    AgreesOn g (load w d).value (load w e).value := by
  by_cases hentries : ∃ entries, Says w entries (fileFor? w (w.absolute d))
      ∧ AllTexts w.environment entries
  · obtain ⟨entries, hentries, htexts⟩ := hentries
    exact (isLayered_load hentries htexts).agreesOn
      (isLayered_load ((hsaid entries).mp hentries) htexts) (hbase entries · hentries)
  · -- for neither directory anything is loaded
    have hd := load_eq_unset fun entries hs ht => hentries ⟨entries, hs, ht⟩
    have he := load_eq_unset fun entries hs ht => hentries ⟨entries, (hsaid entries).mpr hs, ht⟩
    rw [hd, he]
    exact ⟨rfl, rfl, rfl⟩

theorem load_agrees_of_said {d e : Path}
    (hsaid : ∀ entries, Says w entries (fileFor? w (w.absolute d))
      ↔ Says w entries (fileFor? w (w.absolute e)))
    (hbase : ∀ entries q, Says w entries (fileFor? w (w.absolute d)) →
      effective? w.environment entries "project_root" = some (.text q) →
      ((baseOf w (w.absolute d) (fileFor? w (w.absolute d))).join ⟨q⟩).components
        = ((baseOf w (w.absolute e) (fileFor? w (w.absolute e))).join ⟨q⟩).components) :
    (load w d).value.Agrees (load w e).value := by
  have h := load_agreesOn_of_said (g := Path.components) hsaid hbase
  exact ⟨h.gopath, h.modulePath, h.projectRoot⟩

/-- The configurations for two spellings of a directory agree. -/
theorem load_agrees {d e : Path} (h : SameDirectory (w.absolute d) (w.absolute e)) :
    (load w d).value.Agrees (load w e).value := by
  have hfile := sameFile_fileFor? (w := w) h
  exact load_agrees_of_said (fun _ => hfile.says_iff)
    fun _ q _ _ => components_baseOf_join h.toSame hfile ⟨q⟩

end Config

/-! ## Import paths -/

namespace Import

variable {w : World} {c c' : Config}

/-- The modules of two spellings of a directory: none, or one whose root is spelled in two ways. -/
inductive SameModule : Option Module → Option Module → Prop
  | none : SameModule none none
  | some {m n : Module} : m.path = n.path → Same m.root n.root → SameModule (some m) (some n)

/-- The modules of directories that are spelled in two ways, if their module files are read
alike. -/
theorem sameModule_moduleAmong {ds es : List Path}
    (h : List.Forall₂ (fun d e => Same d e
      ∧ w.readText (d.join moduleFileName) = w.readText (e.join moduleFileName)) ds es) :
    SameModule (moduleAmong w ds).value (moduleAmong w es).value := by
  induction h with
  | nil => exact .none
  | @cons a b as bs hab _ ih =>
    obtain ⟨hsame, hread⟩ := hab
    rw [moduleAmong, moduleAmong, hread]
    cases w.readText (b.join moduleFileName) with
    | error e => exact ih
    | ok content =>
      -- a module file without a directive ends the search, too
      dsimp only
      cases moduleDirective? content.toList with
      | none => exact .none
      | some path => exact .some rfl hsame

theorem sameModule_moduleOf {d e : Path} (h : SameDirectory d e) :
    SameModule (moduleOf w d).value (moduleOf w e).value :=
  sameModule_moduleAmong (h.ancestors.imp fun _ _ hab =>
    ⟨hab.toSame, World.readText_same hab.resolve_moduleFile⟩)

theorem below?_congr {p q base base' : Path} (h : p.components = q.components)
    (hbase : base.components = base'.components) : p.below? base = q.below? base' := by
  rw [Path.below?, Path.below?, h, hbase]

theorem byOverride_congr {d e : Path} (hc : c.Agrees c') (h : d.components = e.components) :
    byOverride c d = byOverride c' e := by
  have hroot := hc.projectRoot
  unfold byOverride
  rw [hc.modulePath]
  cases c'.modulePath with
  | none => rfl
  | some m =>
    cases hr : c.projectRoot with
    | none =>
      rw [hr, Option.map_none] at hroot
      rw [Option.map_eq_none_iff.mp hroot.symm]
    | some root =>
      rw [hr, Option.map_some] at hroot
      obtain ⟨root', hr', heq⟩ := Option.map_eq_some_iff.mp hroot.symm
      rw [hr']
      simp only [below?_congr h heq.symm]

theorem byModule_congr {d e : Path} {m n : Option Module} (hm : SameModule m n)
    (h : d.components = e.components) : byModule m d = byModule n e := by
  cases hm with
  | none => rfl
  | some hpath hroot => simp [byModule, hpath, below?_congr h hroot.components]

theorem byWorkspace_congr {d e : Path} (hc : c.Agrees c') (h : d.components = e.components) :
    byWorkspace c d = byWorkspace c' e := by
  have hroots : c.gopathRoots = c'.gopathRoots := by
    rw [Config.gopathRoots, Config.gopathRoots, hc.gopath]
  unfold byWorkspace
  rw [hroots]
  congr 1
  funext root
  rw [below?_congr h rfl]

/-- Two spellings of a directory have one import path. -/
theorem value_ofDirectory {d e : Path} (hc : c.Agrees c') (h : SameDirectory d e) :
    (ofDirectory w c d).value = (ofDirectory w c' e).value := by
  have hcomponents := h.toSame.components
  have hmodule := byModule_congr (sameModule_moduleOf (w := w) h) hcomponents
  have hsource : bySource d = bySource e := by rw [bySource, bySource, hcomponents]
  have hname : byName d = byName e := by
    rw [byName, byName, Path.fileName?, Path.fileName?, hcomponents]
  -- no rule looks at more of the directory than its components
  unfold ofDirectory
  rw [byOverride_congr hc hcomponents]
  cases byOverride c' e with
  | some path => rfl
  | none =>
    simp only [Told.andThen_value, Told.quiet_value]
    rw [hmodule, byWorkspace_congr hc hcomponents, hsource, hname]

end Import

end GoStructs
