import GoStructs.Text.Invisible
/-! # Quoted text

A text between quotation marks, with the characters that cannot stand for themselves spelled out:
the quotation marks, the backslash, the common control characters by a letter, and every other
character that does not show on its own by its code point, as in `\u{200b}`. -/

namespace GoStructs.Text

/-- Which quotation marks a quoted text spells out. -/
inductive QuoteStyle where
  /-- Only the double quotation mark, which also encloses the text. -/
  | double
  /-- Both the double and the single quotation mark. -/
  | both
  deriving DecidableEq, Repr

/-- The characters written as a backslash and a letter or sign. -/
def escapeSign? (style : QuoteStyle) (c : Char) : Option Char :=
  match c with
  | '\x00' => some '0'
  | '\t' => some 't'
  | '\r' => some 'r'
  | '\n' => some 'n'
  | '\\' => some '\\'
  | '"' => some '"'
  | '\'' => if style = .both then some '\'' else none
  | _ => none

/-- The hexadecimal digits of a number, in lower case and without leading zeros. -/
def hexDigits (n : Nat) : List Char := Nat.toDigits 16 n

/-- One character as it is written inside a quoted text. -/
def quoteChar (style : QuoteStyle) (c : Char) : List Char :=
  match escapeSign? style c with
  | some s => ['\\', s]
  | none =>
    if isInvisible c then ['\\', 'u', '\x7b'] ++ hexDigits c.toNat ++ ['\x7d'] else [c]

/-- The text between double quotation marks. -/
def quote (style : QuoteStyle) (s : String) : String :=
  String.ofList ('"' :: s.toList.flatMap (quoteChar style) ++ ['"'])

end GoStructs.Text
