import GoStructs.Source.Location
import GoStructs.Text.Quoted
import GoStructs.World.Path
/-! # Events

What happens on the way to an answer is told in events.  An event has a level and a text.

The text of an event is all of what is logged, but for one event: where the configuration is
refused, a colon and the cause follow, in the words of the library that reads the configuration.
These words are left out, and so is what is told below the level `DEBUG`: the fields that each
struct has got. -/

namespace GoStructs

/-- How much an event matters. -/
inductive Level where
  | debug | info | warn
  deriving DecidableEq, Repr

/-- The name of a level. -/
def Level.name : Level → String
  | debug => "DEBUG"
  | info => "INFO"
  | warn => "WARN"

/-- Something that happened. -/
inductive Event where
  /-- A configuration file was used. -/
  | configLoaded (file : Path)
  /-- The configuration could not be made sense of.  The cause is not kept. -/
  | configRefused
  /-- A module file names no module. -/
  | noModuleDirective (file : Path)
  /-- A file does not fit the grammar. -/
  | syntaxError (file : Path) (location : Location)
  /-- A struct has the name of an earlier one. -/
  | duplicateStruct (name : String) (location : Location)
  /-- An embedded member is of a type that no struct of the file can be. -/
  | unsupportedMember (location : Location)
  /-- An embedded member is of a type that the file does not declare as a struct. -/
  | undeclaredMember (typeName : String) (location : Location)
  /-- The structs of a file were extracted. -/
  | extracted (count : Nat) (file : Path) (importPath : String)
  deriving DecidableEq, Repr

namespace Event

/-- The level of an event. -/
def level : Event → Level
  | configLoaded _ => .info
  | configRefused => .warn
  | noModuleDirective _ => .warn
  | syntaxError _ _ => .debug
  | duplicateStruct _ _ => .warn
  | unsupportedMember _ => .debug
  | undeclaredMember _ _ => .debug
  | extracted _ _ _ => .debug

/-- A path between quotation marks. -/
def quotedPath (p : Path) : String := Text.quote .both p.text

/-- The text of an event, up to the cause of a refusal. -/
def text : Event → String
  | configLoaded file => "Loaded config from " ++ quotedPath file
  | configRefused => "Config error"
  | noModuleDirective file => "No module directive in " ++ quotedPath file
  | syntaxError file location => "Syntax error in " ++ quotedPath file ++ " at " ++ location.display
  | duplicateStruct name location =>
    "Duplicate struct " ++ name ++ " at " ++ location.display ++ ", keeping first"
  | unsupportedMember location =>
    "Skipping unsupported embedded member at " ++ location.display
  | undeclaredMember typeName location =>
    "Embedded type " ++ typeName ++ " at " ++ location.display ++ " is not declared in this file"
  | extracted count file importPath =>
    "Extracted " ++ toString count ++ " structs from " ++ quotedPath file
      ++ " (" ++ importPath ++ ")"

end Event

/-- A value, and what happened on the way to it. -/
structure Told (α : Type) where
  value : α
  events : List Event

namespace Told

/-- A value to which nothing led. -/
def quiet {α : Type} (a : α) : Told α := ⟨a, []⟩

/-- Goes on from a told value; what happened before comes first. -/
def andThen {α β : Type} (t : Told α) (f : α → Told β) : Told β :=
  let u := f t.value
  ⟨u.value, t.events ++ u.events⟩

@[simp] theorem quiet_value {α : Type} (a : α) : (quiet a).value = a := rfl
@[simp] theorem quiet_events {α : Type} (a : α) : (quiet a).events = [] := rfl
@[simp] theorem andThen_value {α β : Type} (t : Told α) (f : α → Told β) :
    (t.andThen f).value = (f t.value).value := rfl
@[simp] theorem andThen_events {α β : Type} (t : Told α) (f : α → Told β) :
    (t.andThen f).events = t.events ++ (f t.value).events := rfl

end Told

end GoStructs
