import GoStructs.Config.Config
import GoStructs.Config.Environment
import GoStructs.Config.Toml.Document
import GoStructs.World.Event
import GoStructs.World.Files
/-! # Loading the configuration

The configuration for a directory comes in three layers, each of which hides settings of those
before it: the nearest configuration file in the directory or above it, the variable that lists
workspaces, and the variables for this program.  If a layer cannot be read, or a setting is given
as anything but a text, then all settings are as if they were not given. -/

namespace GoStructs.Config

/-- The name of a configuration file. -/
def fileName : Path := ⟨".structscan.toml"⟩

/-- The configuration file for a directory. -/
def fileFor? (w : World) (dir : Path) : Option Path :=
  (dir.ancestors.map fun d => d.join fileName).find? w.isFile

/-- The settings of a configuration file, if it can be read. -/
def fileSettings? (w : World) (file : Path) : Option Setting :=
  match w.readText file with
  | .ok text => (Toml.document? text.toList).map .table
  | .error _ => none

/-- The text of a setting in the settings of all layers: `none` if it is not a text. -/
def textOf? (settings : Setting) (name : String) : Option (Option String) :=
  match settings with
  | .table es =>
    match Setting.lookUp es name with
    | none => some none
    | some (.text s) => some (some s)
    | some _ => none
  | _ => none

/-- Is a setting given in some settings? -/
def gives (settings : Setting) (name : String) : Bool :=
  match settings with
  | .table es => (Setting.lookUp es name).isSome
  | _ => false

/-- The layers of settings: what the file says, if there is one, and what the environment says. -/
structure Layers where
  file : Setting
  environment : Setting

/-- The layers for a configuration file, unless that cannot be read. -/
def layers? (w : World) (file : Option Path) : Option Layers :=
  let environment :=
    Setting.overlay (Environment.workspaceSettings w.environment)
      (Environment.ownSettings w.environment)
  match file with
  | none => some ⟨.table [], environment⟩
  | some file => (fileSettings? w file).map fun settings => ⟨settings, environment⟩

/-- The directory that a relative project root starts from: that of the configuration file if the
file gives the root, and the current directory if the environment gives it. -/
def rootBase (w : World) (dir : Path) (file : Option Path) (layers : Layers) : Path :=
  if gives layers.environment "project_root" then w.absolute ⟨"."⟩
  else match file with
    | some file => file.parent?.getD dir
    | none => w.absolute ⟨"."⟩

/-- The configuration that some layers give, unless a setting is no text. -/
def ofLayers? (w : World) (dir : Path) (file : Option Path) (layers : Layers) : Option Config := do
  let all := Setting.overlay layers.file layers.environment
  let gopath ← textOf? all "gopath"
  let modulePath ← textOf? all "module_path"
  let projectRoot ← textOf? all "project_root"
  some
    { gopath := gopath.map Path.mk
      modulePath := modulePath
      projectRoot := projectRoot.map fun root => (rootBase w dir file layers).join ⟨root⟩ }

/-- The configuration for a directory. -/
def load (w : World) (dir : Path) : Told Config :=
  let dir := w.absolute dir
  let file := fileFor? w dir
  match (layers? w file).bind (ofLayers? w dir file) with
  | some c => ⟨c, file.toList.map Event.configLoaded⟩
  | none => ⟨unset, [.configRefused]⟩

end GoStructs.Config
