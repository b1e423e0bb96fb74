import GoStructs.Text.Reading
/-! # Blanks, keys and strings of TOML

The smallest parts of a TOML document.  Each function reads a part from the start of a text and
gives it back with the text behind it.

A string stands between quotation marks, in which a backslash introduces a character, or between
apostrophes, in which it does not.  Three of either mark enclose a text of several lines. -/

namespace GoStructs.Toml

open Text (escape? isNamePart isStringPart)

/-- A blank within a line. -/
def isSpace (c : Char) : Bool := c == ' ' || c == '\t'

/-- The text behind a line end. -/
def newline? : List Char → Option (List Char)
  | '\n' :: rest => some rest
  | '\r' :: '\n' :: rest => some rest
  | _ => none

/-- May the character stand in a comment? -/
def isCommentPart (c : Char) : Bool := c == '\t' || (decide (' ' ≤ c) && c != '\x7f')

/-- The text behind blanks and a comment, both of which may be missing, and a line end. -/
def lineEnd? (s : List Char) : Option (List Char) :=
  let s := match s.dropWhile isSpace with
    | '#' :: rest => rest.dropWhile isCommentPart
    | rest => rest
  if s.isEmpty then some [] else newline? s

/-- The text behind blanks, comments and line ends. -/
def skipLines : Nat → List Char → Option (List Char)
  | 0, s => some s
  | fuel + 1, s =>
    match s.dropWhile isSpace with
    | '#' :: rest => (newline? (rest.dropWhile isCommentPart)).bind (skipLines fuel)
    | c :: rest =>
      if c = '\n' ∨ c = '\r' then (newline? (c :: rest)).bind (skipLines fuel)
      else some (c :: rest)
    | [] => some []

/-! ## Strings -/

/-- The text behind a backslash at the end of a line, and behind all blanks and line ends that
follow. -/
def continuation? (s : List Char) : Option (List Char) :=
  (newline? (s.dropWhile isSpace)).map (skipBlank s.length)
where
  /-- The text behind blanks and line ends. -/
  skipBlank : Nat → List Char → List Char
    | 0, s => s
    | fuel + 1, s =>
      match newline? (s.dropWhile isSpace) with
      | some rest => skipBlank fuel rest
      | none => s.dropWhile isSpace

/-- The rest of a string of several lines.  One or two marks stand for themselves, also in front of
the three that close the string. -/
def linesRest (mark : Char) : Nat → List Char → List Char → Option (String × List Char)
  | 0, _, _ => none
  | fuel + 1, done, s =>
    match s with
    | [] => none
    | c :: rest =>
      if c = mark then
        let marks := s.takeWhile (· == mark)
        let rest := s.dropWhile (· == mark)
        if marks.length < 3 then linesRest mark fuel (marks ++ done) rest
        else if marks.length ≤ 5 then
          some (String.ofList (done.reverse ++ marks.drop 3), rest)
        else none
      else if isStringPart mark c then linesRest mark fuel (c :: done) rest
      else if mark = '"' ∧ c = '\\' then
        match continuation? rest with
        | some rest => linesRest mark fuel done rest
        | none =>
          match escape? rest with
          | some (c, rest) => linesRest mark fuel (c :: done) rest
          | none => none
      else
        match newline? s with
        | some rest => linesRest mark fuel ('\n' :: done) rest
        | none => none

/-- A string on one line. -/
def lineString? (s : List Char) : Option (String × List Char) := Text.string? ['"', '\''] s

/-- A string. -/
def string? (s : List Char) : Option (String × List Char) :=
  match s with
  | '"' :: '"' :: '"' :: rest => linesRest '"' s.length [] ((newline? rest).getD rest)
  | '\'' :: '\'' :: '\'' :: rest => linesRest '\'' s.length [] ((newline? rest).getD rest)
  | _ => lineString? s

/-! ## Keys -/

/-- A key without dots. -/
def simpleKey? (s : List Char) : Option (String × List Char) :=
  match s.takeWhile isNamePart with
  | [] => lineString? s
  | key => some (String.ofList key, s.dropWhile isNamePart)

/-- Paths of keys and values inside one another have to stay below this depth. -/
def depthLimit : Nat := 80

/-- The parts of a key between its dots. -/
def keyParts : Nat → List Char → Option (List String × List Char)
  | 0, _ => none
  | fuel + 1, s =>
    match simpleKey? (s.dropWhile isSpace) with
    | none => none
    | some (key, s) =>
      match s.dropWhile isSpace with
      | '.' :: rest => (keyParts fuel rest).map fun (keys, rest) => (key :: keys, rest)
      | rest => some ([key], rest)

/-- A key, with blanks around it. -/
def key? (s : List Char) : Option (List String × List Char) :=
  match keyParts s.length s with
  | some (keys, rest) => if keys.length < depthLimit then some (keys, rest) else none
  | none => none

end GoStructs.Toml
