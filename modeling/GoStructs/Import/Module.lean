import GoStructs.Text.CodePoint
import GoStructs.World.Event
import GoStructs.World.Files
/-! # Modules

A directory is the root of a module if a file `go.mod` in it says so.  Of a module file only the
module directive counts: the first line that, without its comment and the white space around it,
is the word `module`, white space and a path, which may stand between quotation marks. -/

namespace GoStructs.Import

/-- The name of a module file. -/
def moduleFileName : Path := ⟨"go.mod"⟩

/-- The lines of a text.  A line is ended by a line feed, which a carriage return may precede; a
last line that is empty is none. -/
def linesOf : List Char → List (List Char)
  | [] => []
  | c :: r =>
    if c = '\n' then [] :: linesOf r
    else if c = '\r' ∧ r.head? = some '\n' then linesOf r
    else match r, linesOf r with
      | [], _ => [[c]]
      | _ :: _, [] => [[c]]
      | _ :: _, line :: lines => (c :: line) :: lines

/-- A line up to its first `//`. -/
def withoutComment : List Char → List Char
  | [] => []
  | '/' :: '/' :: _ => []
  | c :: r => c :: withoutComment r

/-- A mark that may stand around a module path. -/
def isPathMark (c : Char) : Bool := c == '"' || c == '\x60'

/-- A text without the quotation marks at its ends. -/
def withoutMarks (s : List Char) : List Char :=
  ((s.dropWhile isPathMark).reverse.dropWhile isPathMark).reverse

/-- The word that a module directive begins with. -/
def directiveWord : List Char := "module".toList

/-- The path that a line gives the module, if it is a module directive. -/
def directiveOf? (line : List Char) : Option (List Char) :=
  let body := Text.trim (withoutComment line)
  if directiveWord.isPrefixOf body then
    let rest := body.drop directiveWord.length
    match rest.head? with
    | some c =>
      if Text.isBlank c then
        let path := withoutMarks (Text.trim rest)
        if path.isEmpty then none else some path
      else none
    | none => none
  else none

/-- The module path that a module file gives. -/
def moduleDirective? (content : List Char) : Option (List Char) :=
  (linesOf content).findSome? directiveOf?

/-- A module: its path and its root. -/
structure Module where
  path : String
  root : Path
  deriving DecidableEq, Repr

/-- The module of the nearest of some directories whose module file can be read. -/
def moduleAmong (w : World) : List Path → Told (Option Module)
  | [] => .quiet none
  | dir :: dirs =>
    let file := dir.join moduleFileName
    match w.readText file with
    | .error _ => moduleAmong w dirs
    | .ok content =>
      match moduleDirective? content.toList with
      | some path => .quiet (some ⟨String.ofList path, dir⟩)
      | none => ⟨none, [.noModuleDirective file]⟩

/-- The module that a directory belongs to. -/
def moduleOf (w : World) (dir : Path) : Told (Option Module) := moduleAmong w dir.ancestors

end GoStructs.Import
