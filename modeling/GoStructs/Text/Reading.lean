/-! # Reading texts

What the readers of this library share, whichever format they are for: beginnings, digits in a
base, and texts between quotation marks.  A reader takes the characters from some place on and
gives, with what it has read, those behind it. -/

namespace GoStructs.Text

/-! ## Beginnings -/

/-- The text behind a given beginning, if it has that. -/
def dropStart? (start s : List Char) : Option (List Char) :=
  if start.isPrefixOf s then some (s.drop start.length) else none

/-- The text behind one character of a set. -/
def oneOf? (set : List Char) : List Char → Option (List Char)
  | [] => none
  | c :: rest => if set.contains c then some rest else none

/-- The text behind a character of a set, which may be missing. -/
def skipOneOf (set s : List Char) : List Char := (oneOf? set s).getD s

/-- Is there a minus?  And the text behind the sign, which may be missing. -/
def sign (s : List Char) : Bool × List Char := (s.head? == some '-', skipOneOf ['+', '-'] s)

/-- May the character stand in a name that is not between quotation marks? -/
def isNamePart (c : Char) : Bool := c.isAlphanum || c == '_' || c == '-'

/-! ## Digits -/

/-- The value of a hexadecimal digit. -/
def hexValue? (c : Char) : Option Nat :=
  if '0' ≤ c ∧ c ≤ '9' then some (c.toNat - '0'.toNat)
  else if 'a' ≤ c ∧ c ≤ 'f' then some (c.toNat - 'a'.toNat + 10)
  else if 'A' ≤ c ∧ c ≤ 'F' then some (c.toNat - 'A'.toNat + 10)
  else none

/-- Is this a digit in a base of at most sixteen? -/
def isDigitOf (base : Nat) (c : Char) : Bool := (hexValue? c).any (· < base)

/-- The value of a digit. -/
def digitValue (c : Char) : Nat := (hexValue? c).getD 0

/-- The number that digits in a base stand for. -/
def natOfDigits (base : Nat) (ds : List Char) : Nat :=
  ds.foldl (fun n c => base * n + digitValue c) 0

/-- Exactly so many digits in a base. -/
def fixedDigits? (base count : Nat) (s : List Char) : Option (List Char) :=
  let ds := s.take count
  if ds.length = count ∧ ds.all (isDigitOf base) then some ds else none

/-- The number that so many digits in a base stand for, and the text behind them. -/
def fixedNumber? (base count : Nat) (s : List Char) : Option (Nat × List Char) :=
  (fixedDigits? base count s).map fun ds => (natOfDigits base ds, s.drop count)

/-- The character with a code point; the halves of a pair are none. -/
def scalar? (n : Nat) : Option Char := if h : n.isValidChar then some (Char.ofNatAux n h) else none

/-! ## Texts between quotation marks -/

/-- The character that a letter behind a backslash stands for; some signs stand for themselves. -/
def unescape? (signs : List Char) (c : Char) : Option Char :=
  if signs.contains c then some c
  else match c with
    | 'b' => some '\x08'
    | 'f' => some '\x0c'
    | 'n' => some '\n'
    | 'r' => some '\r'
    | 't' => some '\t'
    | _ => none

/-- The character that stands behind a backslash, by a letter or sign or by its code point. -/
def escape? : List Char → Option (Char × List Char)
  | [] => none
  | c :: rest =>
    let digits := if c = 'u' then 4 else if c = 'U' then 8 else 0
    if digits = 0 then (unescape? ['"', '\\'] c).map (·, rest)
    else (fixedNumber? 16 digits rest).bind fun (n, rest) => (scalar? n).map (·, rest)

/-- May the character stand for itself between such marks? -/
def isStringPart (mark c : Char) : Bool :=
  c == '\t' || (decide (' ' ≤ c) && c != mark && c != '\x7f' && !(mark == '"' && c == '\\'))

/-- The rest of a text behind its opening mark; `done` holds what has been read, last character
first.  Only between double quotation marks does a backslash introduce a character. -/
def stringRest (mark : Char) : Nat → List Char → List Char → Option (String × List Char)
  | 0, _, _ => none
  | fuel + 1, done, s =>
    match s with
    | [] => none
    | c :: rest =>
      if c = mark then some (String.ofList done.reverse, rest)
      else if isStringPart mark c then stringRest mark fuel (c :: done) rest
      else if mark = '"' ∧ c = '\\' then
        match escape? rest with
        | some (c, rest) => stringRest mark fuel (c :: done) rest
        | none => none
      else none

/-- A text on one row between quotation marks or apostrophes that are among the given marks. -/
def string? (marks : List Char) (s : List Char) : Option (String × List Char) :=
  match s with
  | [] => none
  | mark :: rest => if marks.contains mark then stringRest mark s.length [] rest else none

end GoStructs.Text
