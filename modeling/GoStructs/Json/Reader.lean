import GoStructs.Decimal.Reading
import GoStructs.Json.Value
import GoStructs.Text.Reading
/-! # Reading JSON texts

A JSON text is read from left to right.  A number without fraction and exponent is an integer if it
fits into 64 bits, with a sign or without; all other numbers are floating-point numbers. -/

namespace GoStructs.Json

open Decimal (Written)
open Text (dropStart? fixedNumber? natOfDigits scalar?)

/-- White space between the parts of a JSON text. -/
def isSpace (c : Char) : Bool := c == ' ' || c == '\t' || c == '\n' || c == '\r'

/-! ## Strings -/

/-- A character given by its code point, which may be written as a pair of units. -/
def codePoint? (s : List Char) : Option (Char × List Char) :=
  match fixedNumber? 16 4 s with
  | none => none
  | some (high, rest) =>
    if 0xD800 ≤ high ∧ high < 0xDC00 then
      match rest with
      | '\\' :: 'u' :: rest =>
        match fixedNumber? 16 4 rest with
        | some (low, rest) =>
          if 0xDC00 ≤ low ∧ low < 0xE000 then
            (scalar? (0x10000 + (high - 0xD800) * 0x400 + (low - 0xDC00))).map fun c => (c, rest)
          else none
        | none => none
      | _ => none
    else (scalar? high).map fun c => (c, rest)

/-- The rest of a string behind its opening quotation mark; `done` holds what has been read, last
character first. -/
def stringRest : Nat → List Char → List Char → Option (String × List Char)
  | 0, _, _ => none
  | fuel + 1, done, s =>
    match s with
    | [] => none
    | '"' :: rest => some (String.ofList done.reverse, rest)
    | '\\' :: 'u' :: rest =>
      match codePoint? rest with
      | some (c, rest) => stringRest fuel (c :: done) rest
      | none => none
    | '\\' :: c :: rest =>
      match Text.unescape? ['"', '\\', '/'] c with
      | some c => stringRest fuel (c :: done) rest
      | none => none
    | c :: rest => if c < ' ' ∨ c = '\\' then none else stringRest fuel (c :: done) rest

/-! ## Numbers -/

/-- An integer with a sign of 64 bits, or one without. -/
def fitsWord (n : Int) : Bool := decide (-0x8000000000000000 ≤ n ∧ n < 0x10000000000000000)

/-- A run of digits, not empty, and the text behind it. -/
def digits? (s : List Char) : Option (List Char × List Char) :=
  match s.takeWhile Char.isDigit with
  | [] => none
  | ds => some (ds, s.dropWhile Char.isDigit)

/-- The fraction of a number, if there is one, and the text behind it. -/
def fraction? (s : List Char) : Option (List Char × List Char) :=
  match s with
  | '.' :: rest => digits? rest
  | _ => some ([], s)

/-- The exponent of a number, if there is one, and the text behind it. -/
def exponent? (s : List Char) : Option (Option Int × List Char) :=
  match s with
  | [] => some (none, s)
  | c :: rest =>
    if c = 'e' ∨ c = 'E' then
      let (negative, rest) := Text.sign rest
      (digits? rest).map fun (ds, rest) =>
        let n : Int := natOfDigits 10 ds
        (some (if negative then -n else n), rest)
    else some (none, s)

/-- The value of a number, given its parts. -/
def numberOf? (w : Written) (plain : Bool) : Option Json :=
  let n : Int := natOfDigits 10 w.whole
  let n := if w.negative then -n else n
  if plain && fitsWord n && !(w.negative && n == 0) then some (.integer n)
  else w.binary?.map .float

/-- A number and the text behind it. -/
def number? (s : List Char) : Option (Json × List Char) := do
  let (negative, s) := match s with
    | '-' :: rest => (true, rest)
    | _ => (false, s)
  let (whole, s) ← digits? s
  if 1 < whole.length ∧ whole.head? = some '0' then none
  else
    let (fraction, s) ← fraction? s
    let (exponent, s) ← exponent? s
    let v ← numberOf? ⟨negative, whole, fraction, exponent.getD 0⟩
      (fraction.isEmpty && exponent.isNone)
    some (v, s)

/-! ## Values -/

mutual
/-- A value at the start of a text, and the text behind it. -/
def value : Nat → List Char → Option (Json × List Char)
  | 0, _ => none
  | fuel + 1, s =>
    match s.dropWhile isSpace with
    | [] => none
    | '"' :: rest => (stringRest fuel [] rest).map fun (t, rest) => (.string t, rest)
    | '[' :: rest =>
      match rest.dropWhile isSpace with
      | ']' :: rest => some (.array [], rest)
      | _ => items fuel [] rest
    | '\x7b' :: rest =>
      match rest.dropWhile isSpace with
      | '\x7d' :: rest => some (.object [], rest)
      | _ => fields fuel [] rest
    | c :: rest =>
      if c = 't' then (dropStart? "rue".toList rest).map fun rest => (.boolean true, rest)
      else if c = 'f' then (dropStart? "alse".toList rest).map fun rest => (.boolean false, rest)
      else if c = 'n' then (dropStart? "ull".toList rest).map fun rest => (.null, rest)
      else number? (c :: rest)

/-- The items of an array from one of them on; `done` holds those before, last item first. -/
def items : Nat → List Json → List Char → Option (Json × List Char)
  | 0, _, _ => none
  | fuel + 1, done, s =>
    match value fuel s with
    | none => none
    | some (v, s) =>
      match s.dropWhile isSpace with
      | ',' :: rest => items fuel (v :: done) rest
      | ']' :: rest => some (.array (v :: done).reverse, rest)
      | _ => none

/-- The fields of an object from one of them on; `done` holds those before. -/
def fields : Nat → List (String × Json) → List Char → Option (Json × List Char)
  | 0, _, _ => none
  | fuel + 1, done, s =>
    match s.dropWhile isSpace with
    | '"' :: rest =>
      match stringRest fuel [] rest with
      | none => none
      | some (name, rest) =>
        match rest.dropWhile isSpace with
        | ':' :: rest =>
          match value fuel rest with
          | none => none
          | some (v, s) =>
            let done := insertField name v done
            match s.dropWhile isSpace with
            | ',' :: rest => fields fuel done rest
            | '\x7d' :: rest => some (.object done, rest)
            | _ => none
        | _ => none
    | _ => none
end

/-- The value that a text stands for. -/
def ofString? (text : String) : Option Json :=
  let s := text.toList
  match value (2 * s.length + 2) s with
  | some (v, rest) => if (rest.dropWhile isSpace).isEmpty then some v else none
  | none => none

end GoStructs.Json
