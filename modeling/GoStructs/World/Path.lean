/-! # Paths

A path is a text whose parts are separated by slashes.  What it means are its *components*: empty
parts say nothing, nor does a part `.` unless the path begins with it, and a part `..` is a
component of its own that is never taken away.  A path keeps its text, since that is what readers
are shown; two paths with the same components lead to the same place.

Paths are Unicode here.  Names of other bytes, which could be shown only in part, are left out. -/

namespace GoStructs

/-- A path, as it is written. -/
structure Path where
  text : String
  deriving DecidableEq, Repr, Inhabited

namespace Path

/-- A step of a path. -/
inductive Component where
  /-- The slash that an absolute path begins with. -/
  | root
  /-- A part `.` at the beginning. -/
  | here
  /-- A part `..`. -/
  | up
  /-- A name. -/
  | name (s : String)
  deriving DecidableEq, Repr, Inhabited

/-- The parts of the path. -/
def parts (p : Path) : List (List Char) := p.text.toList.splitOn '/'

/-- Does the path begin with a slash? -/
def isAbsolute (p : Path) : Bool := p.text.toList.head? == some '/'

/-- What a part behind the first says. -/
def innerComponent? (part : List Char) : Option Component :=
  match part with
  | [] | ['.'] => none
  | ['.', '.'] => some .up
  | _ => some (.name (String.ofList part))

/-- What the first part says, if no slash stands before it. -/
def firstComponent? (part : List Char) : Option Component :=
  if part = ['.'] then some .here else innerComponent? part

/-- The components of the path. -/
def components (p : Path) : List Component :=
  match p.parts with
  | [] => []
  | first :: rest =>
    let head := if p.isAbsolute then some .root else firstComponent? first
    head.toList ++ rest.filterMap innerComponent?

/-- The path with a further path behind it; an absolute path replaces it. -/
def join (p q : Path) : Path :=
  if q.isAbsolute then q
  else if p.text.isEmpty || p.text.toList.getLast? == some '/' then ⟨p.text ++ q.text⟩
  else ⟨p.text ++ "/" ++ q.text⟩

/-- Of some parts in reverse order, those that are left once the last component is taken away,
together with what stands behind the new last component. -/
def dropComponent (isComponent : List Char → Bool) (parts : List (List Char)) :
    List (List Char) :=
  ((parts.dropWhile (!isComponent ·)).drop 1).dropWhile (!isComponent ·)

/-- The path without its last component.  The root has none to take away, nor has the empty
path. -/
def parent? (p : Path) : Option Path :=
  let counts (part : List Char) : Bool := (innerComponent? part).isSome
  match p.parts with
  | [] => none
  | first :: rest =>
    if p.isAbsolute then
      if rest.any counts then
        match dropComponent counts rest.reverse with
        | [] => some ⟨"/"⟩
        | kept => some ⟨String.ofList (['/'].intercalate (first :: kept.reverse))⟩
      else none
    else
      if rest.any counts then
        match dropComponent counts rest.reverse with
        | [] => if (firstComponent? first).isSome then some ⟨String.ofList first⟩ else some ⟨""⟩
        | kept => some ⟨String.ofList (['/'].intercalate (first :: kept.reverse))⟩
      else if (firstComponent? first).isSome then some ⟨""⟩
      else none

/-- The paths above `p`, nearest first, as far as the fuel goes. -/
def above : Nat → Path → List Path
  | 0, _ => []
  | fuel + 1, p =>
    match p.parent? with
    | some q => q :: above fuel q
    | none => []

/-- The path itself and the paths above it, nearest first. -/
def ancestors (p : Path) : List Path := p :: above p.parts.length p

/-- The last component, if it is a name. -/
def fileName? (p : Path) : Option String :=
  match p.components.getLast? with
  | some (.name s) => some s
  | _ => none

/-- What is left of the first list behind the second, if it begins with it. -/
def stripComponents (cs base : List Component) : Option (List Component) :=
  if base.isPrefixOf cs then some (cs.drop base.length) else none

/-- The components of `p` below `base`, if `p` is at or below it. -/
def below? (p base : Path) : Option (List Component) :=
  stripComponents p.components base.components

/-- The names among some components. -/
def names (cs : List Component) : List String :=
  cs.filterMap fun c => match c with
    | .name s => some s
    | _ => none

/-- The names among some components, with slashes between. -/
def slashed (cs : List Component) : String := String.intercalate "/" (names cs)

end Path

end GoStructs
