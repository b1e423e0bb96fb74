import GoStructs.Config.Config
import GoStructs.Import.Module
/-! # Import paths

The import path of a package is found from the directory that its files are in, by the first of
five rules that applies:

1. the directory is at or below the project root of the configuration, which gives its import path;
2. the directory belongs to a module;
3. the directory is below `src` in one of the workspaces of the configuration;
4. some directory on the way is named `src`;
5. otherwise the import path is the name of the directory. -/

namespace GoStructs.Import

/-- The name of the directory in a workspace that holds packages. -/
def sourceDirectory : String := "src"

/-- The directory that a file is in, as seen from the root. -/
def packageDir (w : World) (file : Path) : Path := w.absolute (file.parent?.getD ⟨""⟩)

/-- A text without the slashes at its end. -/
def withoutSlashes (s : String) : String :=
  String.ofList (s.toList.reverse.dropWhile (· == '/')).reverse

/-- The import path of a directory below a module's root. -/
def underModule (modulePath : String) (rel : List Path.Component) : String :=
  let rel := Path.slashed rel
  if rel.isEmpty then modulePath else withoutSlashes modulePath ++ "/" ++ rel

/-- Rule 1. -/
def byOverride (c : Config) (dir : Path) : Option String :=
  match c.modulePath, c.projectRoot with
  | some modulePath, some root => (dir.below? root).map (underModule modulePath)
  | _, _ => none

/-- Rule 2, for a directory and the module it belongs to. -/
def byModule (m : Option Module) (dir : Path) : Option String :=
  m.bind fun m => (dir.below? m.root).map (underModule m.path)

/-- Rule 3. -/
def byWorkspace (c : Config) (dir : Path) : Option String :=
  c.gopathRoots.findSome? fun root =>
    match dir.below? (root.join ⟨sourceDirectory⟩) with
    | some (r :: rest) => some (Path.slashed (r :: rest))
    | _ => none

/-- The components behind the last one with the given name, if there is such a one. -/
def behindLast (name : String) (cs : List Path.Component) : Option (List Path.Component) :=
  if cs.contains (.name name) then some (cs.reverse.takeWhile (· != .name name)).reverse else none

/-- Rule 4. -/
def bySource (dir : Path) : Option String :=
  match behindLast sourceDirectory dir.components with
  | some (r :: rest) => some (Path.slashed (r :: rest))
  | _ => none

/-- Rule 5. -/
def byName (dir : Path) : String := dir.fileName?.getD ""

/-- The import path of the package in a directory. -/
def ofDirectory (w : World) (c : Config) (dir : Path) : Told String :=
  match byOverride c dir with
  | some path => .quiet path
  | none =>
    (moduleOf w dir).andThen fun m =>
      .quiet <| match byModule m dir with
        | some path => path
        | none =>
          match byWorkspace c dir with
          | some path => path
          | none => (bySource dir).getD (byName dir)

/-- The import path of the package that a file belongs to. -/
def importPath (w : World) (c : Config) (file : Path) : Told String :=
  ofDirectory w c (packageDir w file)

end GoStructs.Import
