import GoStructs.World.Path
/-! # Configuration

A configuration says where import paths come from: a module path for a directory of the project,
and the roots of workspaces.  Each setting may be missing. -/

namespace GoStructs

/-- The settings. -/
structure Config where
  /-- The roots of workspaces, with colons between. -/
  gopath : Option Path
  /-- The import path of the directory `projectRoot`. -/
  modulePath : Option String
  /-- The directory that `modulePath` is for. -/
  projectRoot : Option Path
  deriving DecidableEq, Repr, Inhabited

namespace Config

/-- No settings at all. -/
def unset : Config := ⟨none, none, none⟩

/-- The roots of workspaces, in order. -/
def gopathRoots (c : Config) : List Path :=
  match c.gopath with
  | none => []
  | some p =>
    ((p.text.toList.splitOn ':').filter fun part => !part.isEmpty).map fun part =>
      ⟨String.ofList part⟩

end Config

end GoStructs
