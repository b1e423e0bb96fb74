import GoStructs.Proofs.Config.Provenance
import GoStructs.Proofs.World.Searches
/-! # Configuration files and detours

The search for a configuration file goes up a path as it is written.  Without detours it finds the
file in the nearest directory at or above the one to which the path leads.  A path with detours also
passes other directories, and a file in one of them is taken if the path passes none later.  That
is all that detours do: where they pass no such file, the configuration is the same without them.

## Main statements

* `usesFileIn_iff`: the configuration file for a directory is in the last directory with one
  that the path passes.
* `usesFileIn_direct_iff`: without detours that is the nearest one at or above the directory.
* `load_of_detours`: what detours do to the configuration.
* `load_of_passing`: the configuration file of a directory that is only passed is taken. -/

namespace GoStructs

open GoStructs.Path (Component direct follow IsLast IsNearestAbove)
open GoStructs.World (IsFileName)

namespace World

variable {w : World}

theorem isFile_iff {p : Path} :
    w.isFile p ↔ ∃ place bytes, w.resolve p = .ok (place, .file bytes) := by
  refine ⟨exists_of_isFile, ?_⟩
  rintro ⟨place, bytes, hplace⟩
  rw [isFile, hplace]

end World

namespace Config

variable {w : World} {dir dir' a : Path} {place q : Place}

/-! ## The file that is used -/

theorem isFileName : IsFileName fileName ".structscan.toml" :=
  ⟨isAbsolute_fileName, steps_fileName, by decide +kernel, by decide +kernel, rfl,
    by decide +kernel, by decide +kernel⟩

/-- There is a configuration file in the directory. -/
def HasFile (w : World) (q : Place) : Prop :=
  ∃ bytes, w.entry? (q ++ [".structscan.toml"]) = some (.file bytes)

theorem isFile_iff (h : w.Leads fileName dir place) (ha : a ∈ dir.ancestors) :
    w.isFile (a.join fileName) ↔ HasFile w (follow [] a.steps) := by
  rw [World.isFile_iff]
  constructor
  · rintro ⟨target, bytes, htarget⟩
    exact ⟨bytes, ((h.resolve_eq_file_iff isFileName ha).mp htarget).2⟩
  · rintro ⟨bytes, hbytes⟩
    exact ⟨_, bytes, (h.resolve_eq_file_iff isFileName ha).mpr ⟨rfl, hbytes⟩⟩

/-- The configuration file for `dir` is the one in the directory at the place `q`. -/
def UsesFileIn (w : World) (dir : Path) (q : Place) : Prop :=
  ∃ file bytes, IsNearest w (w.absolute dir) (some file)
    ∧ w.resolve file = .ok (q ++ [".structscan.toml"], .file bytes)

/-- The file is found where the path passes a directory with one for the last time. -/
theorem exists_isNearest (h : w.Leads fileName dir place) {P : List Component}
    (hP : IsLast (HasFile w) dir.steps P) :
    ∃ a : Path, IsNearest w dir (some (a.join fileName)) ∧ a.isAbsolute ∧ a.steps = P
      ∧ ∀ bytes, w.entry? (follow [] P ++ [".structscan.toml"]) = some (.file bytes) →
        w.resolve (a.join fileName) = .ok (follow [] P ++ [".structscan.toml"], .file bytes) := by
  obtain ⟨nearer, a, farther, hsplit, rfl, hfile, hnearer⟩ := hP.exists_ancestor h.absolute
  have ha : a ∈ dir.ancestors := by simp [hsplit]
  refine ⟨a, ⟨nearer, a, farther, hsplit, rfl, (isFile_iff h ha).mpr hfile, ?_⟩,
    (Path.isAbsolute_of_mem_ancestors h.absolute ha).1, rfl,
    fun bytes hbytes => (h.resolve_eq_file_iff isFileName ha).mpr ⟨rfl, hbytes⟩⟩
  intro b hb
  rw [Bool.eq_false_iff, ne_eq, isFile_iff h (by simp [hsplit, hb])]
  exact hnearer b hb

/-- The configuration file for a directory is in the last directory with one that the path
passes. -/
theorem usesFileIn_iff (h : w.Leads fileName dir place) :
    UsesFileIn w dir q ↔ ∃ P, IsLast (HasFile w) dir.steps P ∧ follow [] P = q := by
  rw [UsesFileIn, World.absolute_of_isAbsolute h.absolute]
  constructor
  · rintro ⟨file, bytes, ⟨nearer, a, farther, hsplit, rfl, ha, hnearer⟩, hfile⟩
    have hmem : a ∈ dir.ancestors := by simp [hsplit]
    obtain ⟨hq, -⟩ := (h.resolve_eq_file_iff isFileName hmem).mp hfile
    refine ⟨a.steps, ?_, (List.append_cancel_right hq).symm⟩
    apply Path.isLast_of_ancestors h.absolute hsplit ((isFile_iff h hmem).mp ha)
    intro b hb
    rw [← isFile_iff h (by simp [hsplit, hb]), hnearer b hb]
    exact Bool.false_ne_true
  · rintro ⟨P, hP, rfl⟩
    obtain ⟨a, ha, -, -, hplace⟩ := exists_isNearest h hP
    obtain ⟨bytes, hbytes⟩ := hP.choose_spec.2.1
    exact ⟨_, bytes, ha, hplace bytes hbytes⟩

/-- No configuration file is found just if the path passes no directory with one. -/
theorem isNearest_none_iff (h : w.Leads fileName dir place) :
    IsNearest w dir none ↔ ∀ front, front <+: dir.steps → ¬HasFile w (follow [] front) := by
  constructor
  · intro hnone front ⟨rest, hrest⟩ hfile
    obtain ⟨P, hP⟩ := Path.exists_isLast hrest.symm hfile
    obtain ⟨a, ha, -⟩ := exists_isNearest h hP
    rw [isNearest_iff] at ha hnone
    rw [ha] at hnone
    cases hnone
  · intro hnone a ha
    rw [Bool.eq_false_iff, ne_eq, isFile_iff h ha]
    exact hnone a.steps (Path.steps_prefix_of_mem_ancestors h.absolute ha)

/-- A directory at or above the place is the nearest one, if its configuration file is used. -/
theorem isNearestAbove (h : w.Leads fileName dir place) (hq : UsesFileIn w dir q)
    (habove : q <+: place) : IsNearestAbove (HasFile w) place q := by
  obtain ⟨P, hP, rfl⟩ := (usesFileIn_iff h).mp hq
  rw [← h.place_eq] at habove ⊢
  exact hP.isNearestAbove habove

/-- Without detours the configuration file is the nearest one at or above the directory. -/
theorem usesFileIn_direct_iff (h : w.Leads fileName dir place)
    (h' : w.Leads fileName dir' place) (hsteps : dir'.steps = direct dir.steps) :
    UsesFileIn w dir' q ↔ IsNearestAbove (HasFile w) place q := by
  rw [usesFileIn_iff h', hsteps, ← h.place_eq]
  exact Path.exists_isLast_direct_iff fun c hc => Path.isWritten_of_mem_steps hc

/-! ## Configurations -/

/-- A project root means the same from a configuration file whose path makes detours, but for the
detours. -/
theorem direct_baseOf_join {a' : Path} (ha : a.isAbsolute) (ha' : a'.isAbsolute)
    (hsteps : a'.steps = direct a.steps) (d e root : Path) :
    direct ((baseOf w d (some (a.join fileName))).join root).components
      = direct ((baseOf w e (some (a'.join fileName))).join root).components := by
  obtain ⟨p, hp, hpa⟩ := parent?_join_fileName ha
  obtain ⟨p', hp', hpa'⟩ := parent?_join_fileName ha'
  unfold baseOf
  rw [Option.bind_some, Option.bind_some, hp, hp']
  split
  · rfl
  · show direct (p.join root).components = direct (p'.join root).components
    by_cases hroot : root.isAbsolute
    · simp [Path.join, hroot]
    · have hrel := Bool.eq_false_iff.mpr hroot
      rw [Path.components_of_isAbsolute (Path.isAbsolute_join hpa.left hrel),
        Path.components_of_isAbsolute (Path.isAbsolute_join hpa'.left hrel), Path.steps_join hrel,
        Path.steps_join hrel, hpa.steps, hpa'.steps, hsteps]
      show .root :: direct (a.steps ++ root.steps) = .root :: direct (direct a.steps ++ root.steps)
      rw [Path.direct_append_direct]

/-- Where no configuration file is found with the detours, none is found without them. -/
theorem isNearest_none_direct (h : w.Leads fileName dir place)
    (h' : w.Leads fileName dir' place)
    (hsteps : dir'.steps = direct dir.steps) (hnone : IsNearest w dir none) :
    IsNearest w dir' none := by
  rw [isNearest_none_iff h']
  intro front hfront hfile
  have hpre := Path.prefix_of_direct (fun c hc => Path.isWritten_of_mem_steps hc)
    (hsteps ▸ hfront)
  -- what the path passes without its detours, it passes with them
  obtain ⟨passing, back, hsplit, hpassing⟩ := Path.exists_passing hpre List.prefix_nil.mp
  rw [← hpassing] at hfile
  exact (isNearest_none_iff h).mp hnone passing ⟨back, hsplit.symm⟩ hfile

/-- A configuration file at or above the directory is found with the detours and without them. -/
theorem exists_isNearest_direct (h : w.Leads fileName dir place)
    (h' : w.Leads fileName dir' place)
    (hsteps : dir'.steps = direct dir.steps) {P : List Component}
    (hP : IsLast (HasFile w) dir.steps P) (habove : follow [] P <+: place) :
    ∃ a a' : Path, IsNearest w dir (some (a.join fileName))
      ∧ IsNearest w dir' (some (a'.join fileName)) ∧ a.isAbsolute ∧ a'.isAbsolute
      ∧ a'.steps = direct a.steps ∧ w.resolve (a.join fileName) = w.resolve (a'.join fileName) := by
  obtain ⟨bytes, hbytes⟩ := hP.choose_spec.2.1
  have hP' := hP.direct (fun c hc => Path.isWritten_of_mem_steps hc) (h.place_eq.symm ▸ habove)
  obtain ⟨a, hnearest, ha, rfl, hfile⟩ := exists_isNearest h hP
  obtain ⟨a', hnearest', ha', hasteps, hfile'⟩ := exists_isNearest h' (hsteps ▸ hP')
  rw [Path.follow_direct] at hfile'
  exact ⟨a, a', hnearest, hnearest', ha, ha', hasteps,
    (hfile bytes hbytes).trans (hfile' bytes hbytes).symm⟩

/-- Where a path uses no configuration file but at or above its end, the configuration is the same
without the detours. -/
theorem load_agreesOn (h : w.Leads fileName dir place) (h' : w.Leads fileName dir' place)
    (hsteps : dir'.steps = direct dir.steps) (habove : ∀ q, UsesFileIn w dir q → q <+: place) :
    AgreesOn (fun p => direct p.components) (load w dir).value (load w dir').value := by
  have habs := World.absolute_of_isAbsolute (w := w) h.absolute
  have habs' := World.absolute_of_isAbsolute (w := w) h'.absolute
  by_cases hlast : ∃ P, IsLast (HasFile w) dir.steps P
  · obtain ⟨P, hP⟩ := hlast
    obtain ⟨a, a', hnearest, hnearest', ha, ha', hasteps, hresolve⟩ :=
      exists_isNearest_direct h h' hsteps hP (habove _ ((usesFileIn_iff h).mpr ⟨P, hP, rfl⟩))
    have hread := World.readText_same hresolve
    rw [isNearest_iff] at hnearest hnearest'
    refine load_agreesOn_of_said ?_ ?_
    · simp [habs, habs', hnearest, hnearest', Says, hread]
    · intro entries root _ _
      rw [habs, habs', hnearest, hnearest']
      exact direct_baseOf_join ha ha' hasteps _ _ _
  · have hnone : IsNearest w dir none := by
      rw [isNearest_none_iff h]
      intro front hfront hfile
      obtain ⟨rest, hrest⟩ := hfront
      exact hlast (Path.exists_isLast hrest.symm hfile)
    have hnone' := isNearest_none_direct h h' hsteps hnone
    rw [isNearest_iff] at hnone hnone'
    refine load_agreesOn_of_said ?_ ?_
    · simp [habs, habs', hnone, hnone']
    · intro entries root hsaid hroot
      -- without a file only a variable gives a project root
      rw [habs, hnone] at hsaid
      have hvalue := value_of_effective_of_says_none hsaid hroot
      rw [baseOf, baseOf, if_pos hvalue, if_pos hvalue]

/-- What detours do.  Without them the configuration file is the nearest one at or above the
directory; with them it is in the last directory with one that the path passes.  That is the same
file just if it is at or above the directory, and then the configurations agree. -/
theorem load_of_detours (habs : dir.isAbsolute) (hplace : w.resolve dir = .ok (place, .directory))
    (hsize : (dir.join fileName).text.utf8ByteSize < World.pathLimit) (habs' : dir'.isAbsolute)
    (hsteps : dir'.steps = direct dir.steps)
    (hsize' : (dir'.join fileName).text.utf8ByteSize < World.pathLimit) :
    (∀ q, UsesFileIn w dir' q ↔ IsNearestAbove (HasFile w) place q)
      ∧ (∀ q, UsesFileIn w dir q ↔ ∃ P, IsLast (HasFile w) dir.steps P ∧ follow [] P = q)
      ∧ (∀ q, UsesFileIn w dir q → (UsesFileIn w dir' q ↔ q <+: place))
      ∧ ((∀ q, UsesFileIn w dir q → q <+: place) →
        AgreesOn (fun p => direct p.components) (load w dir).value (load w dir').value) := by
  have h := World.leads_of_resolve habs hplace hsize
  have h' := h.straight habs' hsteps hsize'
  have hnearest : ∀ q, UsesFileIn w dir' q ↔ IsNearestAbove (HasFile w) place q := by
    intro q
    exact usesFileIn_direct_iff h h' hsteps
  refine ⟨hnearest, fun q => usesFileIn_iff h, ?_, load_agreesOn h h' hsteps⟩
  intro q hq
  rw [hnearest]
  constructor
  · intro hq'
    exact hq'.above
  · intro habove
    exact isNearestAbove h hq habove

/-- Two directories side by side below a configuration file. -/
def belowFile : World where
  entries := [(["x"], .directory), (["x", "a"], .directory), (["x", "b"], .directory),
    (["x", ".structscan.toml"], .file projectFile.toUTF8)]
  current := none
  environment := []

/-- The way to the second directory leads through the first, but both are below the file. -/
theorem load_of_detours_belowFile :
    IsNearestAbove (HasFile belowFile) ["x", "b"] ["x"]
      ∧ AgreesOn (fun p => direct p.components) (load belowFile ⟨"/x/a/../b"⟩).value
        (load belowFile ⟨"/x/b"⟩).value := by
  have hplace : belowFile.resolve ⟨"/x/a/../b"⟩ = .ok (["x", "b"], .directory) := by rfl
  have hsteps : (⟨"/x/b"⟩ : Path).steps = direct (⟨"/x/a/../b"⟩ : Path).steps := by decide +kernel
  have hfile : fileFor? belowFile ⟨"/x/a/../b"⟩ = some ⟨"/x/a/../.structscan.toml"⟩ := by
    decide +kernel
  have hfileplace : belowFile.resolve ⟨"/x/a/../.structscan.toml"⟩
      = .ok (["x"] ++ [".structscan.toml"], .file projectFile.toUTF8) := by rfl
  obtain ⟨hnearest, -, hsame, hagrees⟩ := load_of_detours (by decide +kernel) hplace
    (by decide +kernel) (by decide +kernel) hsteps (by decide +kernel)
  have huses : UsesFileIn belowFile ⟨"/x/a/../b"⟩ ["x"] :=
    ⟨_, _, isNearest_iff.mpr hfile, hfileplace⟩
  refine ⟨(hnearest _).mp ((hsame _ huses).mpr (by decide)), hagrees ?_⟩
  rintro q ⟨file, bytes, hfound, hq⟩
  rw [← Option.some.inj (hfile.symm.trans (isNearest_iff.mp hfound)), hfileplace] at hq
  obtain ⟨hq, -⟩ := Prod.mk.inj (Except.ok.inj hq)
  rw [← List.append_cancel_right hq]
  decide

/-- Two directories side by side, and a configuration file in the first. -/
def besideFile : World where
  entries := [(["a"], .directory), (["b"], .directory),
    (["a", ".structscan.toml"], .file "module_path = 'm'\n".toUTF8)]
  current := none
  environment := []

/-- The way to the second directory leads through the first, and its configuration file is taken. -/
theorem load_of_passing :
    besideFile.resolve ⟨"/a/../b"⟩ = .ok (["b"], .directory)
      ∧ (⟨"/b"⟩ : Path).steps = direct (⟨"/a/../b"⟩ : Path).steps
      ∧ UsesFileIn besideFile ⟨"/a/../b"⟩ ["a"]
      ∧ (load besideFile ⟨"/a/../b"⟩).value = ⟨none, some "m", none⟩
      ∧ (load besideFile ⟨"/b"⟩).value = unset := by
  have hfile : fileFor? besideFile ⟨"/a/../b"⟩ = some ⟨"/a/.structscan.toml"⟩ := by decide +kernel
  refine ⟨by rfl, by decide +kernel, ⟨_, _, isNearest_iff.mpr hfile, by rfl⟩, ?_, ?_⟩
  · decide +kernel
  · decide +kernel

end Config

end GoStructs
