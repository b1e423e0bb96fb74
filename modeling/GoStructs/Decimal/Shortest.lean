import GoStructs.Decimal.Binary
/-! # Shortest decimal texts

A binary floating-point number is written with the fewest decimal digits that still lead back to
it; among those, with the digits nearest to it. -/

namespace GoStructs.Decimal

/-- The number `digits * 10 ^ exponent`. -/
structure Digits where
  digits : Nat
  exponent : Int
  deriving DecidableEq, Repr, Inhabited

namespace Digits

/-- The ratio `num / den` in units of a power of ten, as a ratio. -/
def inUnits (num den : Nat) (exponent : Int) : Nat × Nat :=
  (num * Nat.pow 10 (-exponent).toNat, den * Nat.pow 10 exponent.toNat)

/-- The floating-point number nearest to a decimal one. -/
def nearest? (negative : Bool) (d : Digits) : Option Binary64 :=
  Binary64.nearest negative (d.digits * Nat.pow 10 d.exponent.toNat)
    (Nat.pow 10 (-d.exponent).toNat)

/-- More powers of ten than the format has. -/
def powers : Nat := 400

/-- The exponent of the first decimal digit of `num / den`. -/
def leadingExponent (num den : Nat) : Int :=
  if den ≤ num then ((Nat.toDigits 10 (num / den)).length : Int) - 1
  else -(((List.range powers).find? fun k => decide (den ≤ num * Nat.pow 10 k)).getD powers : Int)

/-- The most digits that are ever needed. -/
def mostDigits : Nat := 17

/-- Of the two decimal numbers with the given exponent around `x` the one nearer to it, among those
that lead back to `x`. -/
def around? (x : Binary64) (exponent : Int) : Option Digits :=
  let (n, d) := inUnits x.numerator x.denominator exponent
  let below : Digits := ⟨n / d, exponent⟩
  let above : Digits := ⟨n / d + 1, exponent⟩
  let near := if divideNearer n d then below else above
  let other := if divideNearer n d then above else below
  if near.nearest? x.negative == some x then some near
  else if other.nearest? x.negative == some x then some other
  else none
where
  /-- Is `n / d` rounded to the nearest whole number rounded down? -/
  divideNearer (n d : Nat) : Bool := Binary64.divideNearest n d == n / d

/-- The shortest decimal number that leads back to `x`.  The coarsest grid is that of the power of
ten above `x`. -/
def shortest (x : Binary64) : Digits :=
  let top := leadingExponent x.numerator x.denominator + 1
  ((List.range (mostDigits + 1)).findSome? fun (n : Nat) => around? x (top - n)).getD ⟨0, 0⟩

end Digits

/-- How a decimal number is written out. -/
structure Style where
  /-- Numbers whose point stands this far left of their first digit, or further, get an exponent. -/
  leastPoint : Int
  /-- Numbers with more digits before the point than this get an exponent. -/
  mostPoint : Int

/-- A text of that many zeros. -/
def zeros (n : Nat) : String := String.ofList (List.replicate n '0')

/-- A number with an exponent; a positive exponent has a plus sign. -/
def scientific (digits : List Char) (exponent : Int) : String :=
  let mark := if exponent < 0 then "e-" else "e+"
  String.ofList (digits.take 1) ++ (if digits.length ≤ 1 then "" else ".")
    ++ String.ofList (digits.drop 1) ++ mark ++ toString exponent.natAbs

/-- A number without its sign.  If it has no exponent it has a point, with a digit on both
sides. -/
def Style.unsigned (style : Style) (d : Digits) : String :=
  let digits := Nat.toDigits 10 d.digits
  let count : Int := digits.length
  let point := count + d.exponent
  if point ≤ style.leastPoint ∨ style.mostPoint < point then scientific digits (point - 1)
  else if point ≤ 0 then "0." ++ zeros (-point).toNat ++ String.ofList digits
  else if count ≤ point then String.ofList digits ++ zeros (point - count).toNat ++ ".0"
  else
    String.ofList (digits.take point.toNat) ++ "." ++ String.ofList (digits.drop point.toNat)

/-- The shortest text of a floating-point number. -/
def Style.text (style : Style) (x : Binary64) : String :=
  (if x.negative then "-" else "") ++
    style.unsigned (if x.isZero then ⟨0, 0⟩ else Digits.shortest x)

end GoStructs.Decimal
