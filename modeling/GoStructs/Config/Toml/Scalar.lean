import GoStructs.Decimal.Reading
import GoStructs.Text.Reading
/-! # Truth values, numbers and dates of TOML

Values that no setting can have.  So nothing is kept of them, but a document in which one is not
well formed is none.  Each function gives back the text behind what it reads. -/

namespace GoStructs.Toml

open Text (dropStart? fixedNumber? isDigitOf natOfDigits oneOf? sign)

/-! ## Dates and times -/

/-- A number of two digits in a range. -/
def twoDigits? (least greatest : Nat) (s : List Char) : Option (Nat × List Char) :=
  match fixedNumber? 10 2 s with
  | some (n, rest) => if least ≤ n ∧ n ≤ greatest then some (n, rest) else none
  | none => none

/-- The number of days of a month. -/
def daysOf (year month : Nat) : Nat :=
  if month = 2 then
    if year % 4 = 0 ∧ (year % 100 ≠ 0 ∨ year % 400 = 0) then 29 else 28
  else if month = 4 ∨ month = 6 ∨ month = 9 ∨ month = 11 then 30
  else 31

/-- A date. -/
def date? (s : List Char) : Option (List Char) := do
  let (year, s) ← fixedNumber? 10 4 s
  let s ← oneOf? ['-'] s
  let (month, s) ← twoDigits? 1 12 s
  let s ← oneOf? ['-'] s
  let (_, s) ← twoDigits? 1 (daysOf year month) s
  some s

/-- A fraction of a second, which may be missing. -/
def secondFraction (s : List Char) : List Char :=
  match s with
  | '.' :: d :: rest => if d.isDigit then rest.dropWhile Char.isDigit else s
  | _ => s

/-- A time of day. -/
def time? (s : List Char) : Option (List Char) := do
  let (_, s) ← twoDigits? 0 23 s
  let s ← oneOf? [':'] s
  let (_, s) ← twoDigits? 0 59 s
  let s ← oneOf? [':'] s
  let (_, s) ← twoDigits? 0 60 s
  some (secondFraction s)

/-- The offset of a time zone. -/
def offset? (s : List Char) : Option (List Char) :=
  (oneOf? ['Z', 'z'] s).or do
    let s ← oneOf? ['+', '-'] s
    let (_, s) ← twoDigits? 0 23 s
    let s ← oneOf? [':'] s
    let (_, s) ← twoDigits? 0 59 s
    some s

/-- A date, a time, or both with or without an offset. -/
def moment? (s : List Char) : Option (List Char) :=
  match date? s with
  | none => time? s
  | some s =>
    match (oneOf? ['T', 't', ' '] s).bind time? with
    | none => some s
    | some s => some ((offset? s).getD s)

/-! ## Numbers -/

/-- The digits at the start of a text, without the single underscores in front of some of them. -/
def digitRun (isDigit : Char → Bool) : List Char → List Char × List Char
  | [] => ([], [])
  | c :: rest =>
    if isDigit c then
      let (ds, rest) := digitRun isDigit rest
      (c :: ds, rest)
    else if c = '_' ∧ (rest.head?.any isDigit) then digitRun isDigit rest
    else ([], c :: rest)

/-- A run of digits that begins with one. -/
def someDigits? (isDigit : Char → Bool) (s : List Char) : Option (List Char × List Char) :=
  if s.head?.any isDigit then some (digitRun isDigit s) else none

/-- The digits of a decimal number before the point; only a lone zero may come first. -/
def wholeDigits? (s : List Char) : Option (List Char × List Char) :=
  match s with
  | '0' :: rest => some (['0'], rest)
  | _ => someDigits? Char.isDigit s

/-- The exponent of a number. -/
def exponent? (s : List Char) : Option (Int × List Char) := do
  let s ← oneOf? ['e', 'E'] s
  let (negative, s) := sign s
  let (ds, s) ← someDigits? Char.isDigit s
  let n : Int := natOfDigits 10 ds
  some (if negative then -n else n, s)

/-- A number with a fraction, an exponent or both.  A positive number may not be too great to be a
floating-point number. -/
def float? (s : List Char) : Option (List Char) := do
  let (negative, s) := sign s
  let (whole, s) ← wholeDigits? s
  let (fraction, s) := (((oneOf? ['.'] s).bind (someDigits? Char.isDigit))).getD ([], s)
  let exponent := exponent? s
  if fraction.isEmpty && exponent.isNone then none
  else
    let (e, s) := exponent.getD (0, s)
    if !negative && (Decimal.Written.nearest? ⟨negative, whole, fraction, e⟩).isNone then none
    else some s

/-- A name of a number that is infinite or none. -/
def specialFloat? (s : List Char) : Option (List Char) :=
  let s := (sign s).2
  (dropStart? "inf".toList s).or (dropStart? "nan".toList s)

/-- Is this an integer of 64 bits? -/
def fitsWord (n : Int) : Bool := decide (-0x8000000000000000 ≤ n ∧ n < 0x8000000000000000)

/-- An integer in decimal notation. -/
def decimal? (s : List Char) : Option (List Char) := do
  let (negative, s) := sign s
  let (ds, s) ← wholeDigits? s
  let n : Int := natOfDigits 10 ds
  if fitsWord (if negative then -n else n) then some s else none

/-- The base that a letter behind a zero stands for. -/
def baseOf? (c : Char) : Option Nat :=
  match c with
  | 'x' => some 16
  | 'o' => some 8
  | 'b' => some 2
  | _ => none

/-- An integer. -/
def integer? (s : List Char) : Option (List Char) :=
  match s with
  | '0' :: c :: rest =>
    match baseOf? c with
    | some base => do
      let (ds, rest) ← someDigits? (isDigitOf base) rest
      if fitsWord (natOfDigits base ds) then some rest else none
    | none => decimal? s
  | _ => decimal? s

/-- A truth value, a number, a date or a time. -/
def scalar? (s : List Char) : Option (List Char) :=
  match s with
  | [] => none
  | c :: _ =>
    if c.isDigit || c == '+' || c == '-' then
      (((moment? s).or (float? s)).or (integer? s)).or (specialFloat? s)
    else
      ((dropStart? "true".toList s).or (dropStart? "false".toList s)).or (specialFloat? s)

end GoStructs.Toml
