import GoStructs.World.Path
/-! # The world of a program

A program meets a tree of directories and files, a current directory, and an environment.  Nothing
here is a link: every directory has one parent, so `..` in a path leads to it.  The current
directory may have been removed; then no relative path leads anywhere. -/

namespace GoStructs

/-- What a name in a directory stands for. -/
inductive Entry where
  | directory
  | file (bytes : ByteArray)
  deriving Inhabited

/-- Why a file cannot be read as text. -/
inductive ReadError where
  | notFound
  | isDirectory
  | notDirectory
  | nameTooLong
  | notText
  | nulInName
  deriving DecidableEq, Repr

/-- The reason in words. -/
def ReadError.message : ReadError → String
  | notFound => "No such file or directory (os error 2)"
  | isDirectory => "Is a directory (os error 21)"
  | notDirectory => "Not a directory (os error 20)"
  | nameTooLong => "File name too long (os error 36)"
  | notText => "stream did not contain valid UTF-8"
  | nulInName => "file name contained an unexpected NUL byte"

/-- Where an entry is: the names on the way to it from the root. -/
abbrev Place := List String

/-- The files and directories, the current directory and the environment.  Of two entries at one
place the first counts. -/
structure World where
  entries : List (Place × Entry)
  current : Option Place
  environment : List (String × String)
  deriving Inhabited

namespace World

/-- The most bytes that a name may have. -/
def longestName : Nat := 255

/-- A path has to have fewer bytes than this. -/
def pathLimit : Nat := 4096

/-- The entry at a place. -/
def entry? (w : World) (place : Place) : Option Entry :=
  if place.isEmpty then some .directory
  else (w.entries.find? fun e => e.1 == place).map Prod.snd

/-- Follows the parts of a path from a directory on. -/
def walk (w : World) (dir : Place) : List (List Char) → Except ReadError (Place × Entry)
  | [] => .ok (dir, .directory)
  | part :: rest =>
    if part = [] ∨ part = ['.'] then w.walk dir rest
    else if part = ['.', '.'] then w.walk dir.dropLast rest
    else
      let name := String.ofList part
      if longestName < name.utf8ByteSize then .error .nameTooLong
      else match w.entry? (dir ++ [name]) with
        | none => .error .notFound
        | some .directory => w.walk (dir ++ [name]) rest
        | some (.file bytes) =>
          if rest.isEmpty then .ok (dir ++ [name], .file bytes) else .error .notDirectory

/-- The directory from which a path is followed. -/
def startOf (w : World) (p : Path) : Option Place := if p.isAbsolute then some [] else w.current

/-- Where a path leads. -/
def resolve (w : World) (p : Path) : Except ReadError (Place × Entry) :=
  if p.text.toList.contains '\x00' then .error .nulInName
  else if p.text.isEmpty then .error .notFound
  else if pathLimit ≤ p.text.utf8ByteSize then .error .nameTooLong
  else match w.startOf p with
    | none => .error .notFound
    | some dir => w.walk dir p.parts

/-- The bytes of a file. -/
def readBytes (w : World) (p : Path) : Except ReadError ByteArray :=
  match w.resolve p with
  | .error e => .error e
  | .ok (_, .directory) => .error .isDirectory
  | .ok (_, .file bytes) => .ok bytes

/-- A file as text. -/
def readText (w : World) (p : Path) : Except ReadError String :=
  match w.readBytes p with
  | .error e => .error e
  | .ok bytes =>
    match String.fromUTF8? bytes with
    | some s => .ok s
    | none => .error .notText

/-- Does the path lead to a file? -/
def isFile (w : World) (p : Path) : Bool :=
  match w.resolve p with
  | .ok (_, .file _) => true
  | _ => false

/-- The path of the current directory. -/
def currentPath? (w : World) : Option Path :=
  w.current.map fun place => ⟨"/" ++ String.intercalate "/" place⟩

/-- The path as seen from the root; without a current directory a relative path stays as it is. -/
def absolute (w : World) (p : Path) : Path :=
  if p.isAbsolute then p
  else match w.currentPath? with
    | some dir => dir.join p
    | none => p

/-! ## Changing the world -/

/-- Makes the directories that the parts of a path name, from a directory on. -/
def makeParts (w : World) (dir : Place) : List (List Char) → World × Place
  | [] => (w, dir)
  | part :: rest =>
    if part = [] ∨ part = ['.'] then w.makeParts dir rest
    else if part = ['.', '.'] then w.makeParts dir.dropLast rest
    else
      let inner := dir ++ [String.ofList part]
      match w.entry? inner with
      | some _ => w.makeParts inner rest
      | none => ({ w with entries := (inner, .directory) :: w.entries }).makeParts inner rest

/-- Makes a directory, and those above it. -/
def makeDirectory (w : World) (p : Path) : World :=
  match w.startOf p with
  | none => w
  | some dir => (w.makeParts dir p.parts).1

/-- Writes a file, and makes the directories above it. -/
def write (w : World) (p : Path) (bytes : ByteArray) : World :=
  match w.startOf p, p.parts.getLast? with
  | some dir, some name =>
    let (w, parent) := w.makeParts dir p.parts.dropLast
    { w with entries := (parent ++ [String.ofList name], .file bytes) :: w.entries }
  | _, _ => w

/-- Removes a file, or a directory with all that is in it. -/
def remove (w : World) (p : Path) : World :=
  match w.resolve p with
  | .error _ => w
  | .ok (place, _) =>
    let current := w.current.filter fun dir => !place.isPrefixOf dir
    { w with entries := w.entries.filter (fun e => !place.isPrefixOf e.1), current := current }

/-- Makes a directory the current one. -/
def enter (w : World) (p : Path) : World :=
  match w.resolve p with
  | .ok (place, .directory) => { w with current := some place }
  | _ => w

/-- Sets a variable of the environment. -/
def setVariable (w : World) (name value : String) : World :=
  if w.environment.any (·.1 == name) then
    { w with environment := w.environment.map fun v => if v.1 == name then (name, value) else v }
  else { w with environment := w.environment ++ [(name, value)] }

/-- Takes a variable out of the environment. -/
def unsetVariable (w : World) (name : String) : World :=
  { w with environment := w.environment.filter (·.1 != name) }

/-- A world with a directory, which is the current one, and nothing else. -/
def withDirectory (p : Path) : World :=
  ((⟨[], some [], []⟩ : World).makeDirectory p).enter p

end World

end GoStructs
