import GoStructs.Config.Setting
import GoStructs.Text.CodePoint
import GoStructs.Text.Reading
/-! # Settings in the environment

A variable of the environment gives a setting its value as a text.  The text may be a truth value,
a number, a list in brackets, a table in braces, or a text between quotation marks; otherwise it
stands for itself without the white space around it.  A text that begins as one of these and goes
on in another way stands for itself as it is. -/

namespace GoStructs.Environment

open Text (dropStart? isNamePart natOfDigits sign string?)

/-! ## Values -/

/-- White space around a value. -/
def isSpace (c : Char) : Bool :=
  c == ' ' || c == '\t' || c == '\n' || c == '\x0c' || c == '\r'

/-- A mark that cannot stand in a plain value. -/
def isSeparator (c : Char) : Bool :=
  c == ',' || c == '\x7b' || c == '\x7d' || c == '[' || c == ']'

/-- Is this an integer of 64 bits, with a sign or without? -/
def isInteger (s : List Char) : Bool :=
  let (negative, ds) := sign s
  let limit := if negative then 0x8000000000000001 else 0x10000000000000000
  !ds.isEmpty && ds.all Char.isDigit && decide (natOfDigits 10 ds < limit)

/-- Is this an exponent, with its mark, or nothing? -/
def isExponent (s : List Char) : Bool :=
  match s with
  | [] => true
  | c :: rest =>
    let ds := (sign rest).2
    (c == 'e' || c == 'E') && !ds.isEmpty && ds.all Char.isDigit

/-- Is this a number with a point?  A digit has to stand on one side of it. -/
def isDecimal (s : List Char) : Bool :=
  let s := (sign s).2
  let whole := s.takeWhile Char.isDigit
  match s.dropWhile Char.isDigit with
  | '.' :: rest =>
    let fraction := rest.takeWhile Char.isDigit
    !(whole.isEmpty && fraction.isEmpty) && isExponent (rest.dropWhile Char.isDigit)
  | _ => false

/-- What a plain value stands for. -/
def plain (s : List Char) : Setting :=
  let s := Text.trim s
  if isDecimal s || isInteger s then .other else .text (String.ofList s)

/-- A truth value. -/
def truth? (s : List Char) : Option (List Char) :=
  (dropStart? "true".toList s).or (dropStart? "false".toList s)

mutual
/-- A value at the start of a text, and the text behind it and the white space that follows. -/
def value : Nat → List Char → Option (Setting × List Char)
  | 0, _ => none
  | fuel + 1, s =>
    let s := s.dropWhile isSpace
    match truth? s with
    | some rest => some (.other, rest.dropWhile isSpace)
    | none =>
      match s with
      | '\x7b' :: rest => (entries fuel [] rest).map fun (v, rest) => (v, rest.dropWhile isSpace)
      | '[' :: rest => (items fuel rest).map fun (v, rest) => (v, rest.dropWhile isSpace)
      | '"' :: _ => (string? ['"'] s).map fun (t, rest) => (.text t, rest.dropWhile isSpace)
      | '\'' :: rest =>
        match rest with
        | c :: '\'' :: rest => some (.text (String.ofList [c]), rest.dropWhile isSpace)
        | _ => none
      | _ => some (plain (s.takeWhile (!isSeparator ·)), s.dropWhile (!isSeparator ·))

/-- The items of a list from one of them on, up to the bracket that closes it. -/
def items : Nat → List Char → Option (Setting × List Char)
  | 0, _ => none
  | _ + 1, ']' :: rest => some (.other, rest)
  | fuel + 1, s =>
    match value fuel s with
    | some (_, ',' :: rest) => items fuel rest
    | some (_, ']' :: rest) => some (.other, rest)
    | _ => none

/-- The entries of a table from one of them on, up to the brace that closes it. -/
def entries : Nat → List (String × Setting) → List Char → Option (Setting × List Char)
  | 0, _, _ => none
  | _ + 1, es, '\x7d' :: rest => some (.table es, rest)
  | fuel + 1, es, s =>
    let s := s.dropWhile isSpace
    let name? := match s.takeWhile isNamePart with
      | [] => string? ['"'] s
      | name => some (String.ofList name, s.dropWhile isNamePart)
    match name? with
    | none => none
    | some (name, s) =>
      match s.dropWhile isSpace with
      | '=' :: rest =>
        match value fuel rest with
        | none => none
        | some (v, rest) =>
          let es := es.filter (fun e => e.1 != name) ++ [(name, v)]
          match rest with
          | ',' :: rest => entries fuel es rest
          | '\x7d' :: rest => some (.table es, rest)
          | _ => none
      | _ => none
end

/-- The setting that the text of a variable stands for. -/
def settingOf (text : String) : Setting :=
  let s := text.toList
  match value (2 * s.length + 2) s with
  | some (v, []) => v
  | _ => .text text

/-! ## Names -/

/-- The start of the names of variables for this program. -/
def nameStart : String := "STRUCTSCAN_"

/-- The variable that lists workspaces. -/
def workspaceName : String := "GOPATH"

/-- The setting that the variable of workspaces is for. -/
def workspaceKey : String := "gopath"

/-- A text with its letters from `A` to `Z` made small. -/
def small (s : List Char) : List Char := s.map Char.toLower

/-- The path of the setting that a variable of this program is for: what stands behind the start of
its name, in small letters, with dots between the names of tables.  Capital and small letters are
not told apart. -/
def pathOf? (name : String) : Option (List String) :=
  let start := small nameStart.toList
  let name := small name.toList
  if start.isPrefixOf name then
    let parts := (Text.trim (name.drop start.length)).splitOn '.'
    if parts.any List.isEmpty then none else some (parts.map String.ofList)
  else none

/-- A value inside the tables on a path. -/
def nested (v : Setting) : List String → Setting
  | [] => v
  | name :: path => .table [(name, nested v path)]

/-- The settings of some variables, given which setting each is for.  Later variables are laid over
earlier ones. -/
def settingsOf (pathOf? : String → Option (List String)) (given : List (String × String)) :
    Setting :=
  given.foldl
    (fun all v => match pathOf? v.1 with
      | some path => Setting.overlay all (nested (settingOf v.2) path)
      | none => all)
    (.table [])

/-- The settings of the variable of workspaces. -/
def workspaceSettings (given : List (String × String)) : Setting :=
  settingsOf
    (fun name =>
      if small name.toList = small workspaceName.toList then some [workspaceKey] else none)
    given

/-- The settings of the variables for this program. -/
def ownSettings (given : List (String × String)) : Setting :=
  settingsOf pathOf? given

end GoStructs.Environment
