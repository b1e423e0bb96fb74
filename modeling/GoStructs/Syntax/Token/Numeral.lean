import GoStructs.Syntax.Token
import GoStructs.Text.Reading
/-! # Numerals

Integer, floating-point and imaginary literals.  A recogniser takes the characters from some place
on and gives those that remain behind the literal; a numeral is the longest literal at its place. -/

namespace GoStructs.Syntax.Numeral

open Text (isDigitOf oneOf? skipOneOf)

/-- Further digits, where one underscore may stand before each. -/
def moreDigits (digit : Char → Bool) : List Char → List Char
  | [] => []
  | [c] => if digit c then [] else [c]
  | c :: d :: r =>
    if digit c then moreDigits digit (d :: r)
    else if c == '_' && digit d then moreDigits digit r
    else c :: d :: r

/-- A run of digits, with single underscores between them. -/
def digits? (digit : Char → Bool) : List Char → Option (List Char)
  | [] => none
  | c :: r => if digit c then some (moreDigits digit r) else none

/-- A literal in another base: a zero, the base's letter, perhaps an underscore, digits. -/
def based? (letters : List Char) (digit : Char → Bool) (s : List Char) : Option (List Char) :=
  (oneOf? ['0'] s).bind (oneOf? letters) |>.bind fun r => digits? digit (skipOneOf ['_'] r)

/-- The ways to read an integer literal. -/
def ints (s : List Char) : List (List Char) :=
  let decimal := match s with
    | '0' :: r => some r
    | c :: r =>
      if c.isDigit then some ((digits? Char.isDigit (skipOneOf ['_'] r)).getD r) else none
    | [] => none
  let octal := (oneOf? ['0'] s).bind fun r =>
    digits? (isDigitOf 8) (skipOneOf ['_'] (skipOneOf ['o', 'O'] r))
  [based? ['b', 'B'] (isDigitOf 2) s, decimal, octal, based? ['x', 'X'] (isDigitOf 16) s].filterMap id

/-- An exponent: its letter, perhaps a sign, decimal digits. -/
def exponent? (letters : List Char) (s : List Char) : Option (List Char) :=
  (oneOf? letters s).bind fun r => digits? Char.isDigit (skipOneOf ['+', '-'] r)

/-- The ways to read a floating-point literal. -/
def floats (s : List Char) : List (List Char) :=
  let tail (r : List Char) : List Char := (exponent? ['e', 'E'] r).getD r
  let whole := digits? Char.isDigit s
  let pointed := (whole.bind (oneOf? ['.'])).map fun r => tail ((digits? Char.isDigit r).getD r)
  let scaled := whole.bind (exponent? ['e', 'E'])
  let fraction := ((oneOf? ['.'] s).bind (digits? Char.isDigit)).map tail
  let hex := (oneOf? ['0'] s).bind (oneOf? ['x', 'X'])
  let hexWhole := hex.bind fun r => digits? (isDigitOf 16) (skipOneOf ['_'] r)
  let hexPointed := (hexWhole.bind (oneOf? ['.'])).map fun r => (digits? (isDigitOf 16) r).getD r
  let hexFraction := (hex.bind (oneOf? ['.'])).bind (digits? (isDigitOf 16))
  [pointed, scaled, fraction, hexPointed.bind (exponent? ['p', 'P']),
   hexWhole.bind (exponent? ['p', 'P']), hexFraction.bind (exponent? ['p', 'P'])].filterMap id

/-- The ways to read an imaginary literal: any number and an `i`. -/
def imaginaries (s : List Char) : List (List Char) :=
  ((digits? Char.isDigit s).toList ++ ints s ++ floats s).filterMap (oneOf? ['i'])

/-- The longest numeral at the start of the text: its kind, and the text behind it. -/
def longest? (s : List Char) : Option (TokenKind × List Char) :=
  let readings := (ints s).map (TokenKind.int, ·) ++ (floats s).map (TokenKind.float, ·) ++
    (imaginaries s).map (TokenKind.imaginary, ·)
  readings.foldl
    (fun best r => match best with
      | none => some r
      | some b => if r.2.length < b.2.length then some r else some b)
    none

end GoStructs.Syntax.Numeral
