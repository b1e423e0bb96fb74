/-! # Binary floating-point numbers

The finite numbers of the 64-bit binary format, as a sign, a mantissa of at most 53 bits and an
exponent of two, and the rounding of a ratio to the nearest of them. -/

namespace GoStructs

/-- A finite floating-point number of 64 bits: the mantissa times a power of two, with a sign. -/
structure Binary64 where
  negative : Bool
  mantissa : Nat
  exponent : Int
  deriving DecidableEq, Repr, Inhabited

namespace Binary64

/-- The least mantissa that fills its 53 bits. -/
def fullMantissa : Nat := 0x10000000000000

/-- The least exponent. -/
def leastExponent : Int := -1074

/-- The greatest exponent. -/
def greatestExponent : Int := 971

/-- Zero, with a sign. -/
def zero (negative : Bool) : Binary64 := ⟨negative, 0, leastExponent⟩

/-- Is this a zero? -/
def isZero (x : Binary64) : Bool := x.mantissa == 0

/-- The size of the number is `numerator / denominator`. -/
def numerator (x : Binary64) : Nat := x.mantissa * Nat.pow 2 x.exponent.toNat

/-- The size of the number is `numerator / denominator`. -/
def denominator (x : Binary64) : Nat := Nat.pow 2 (-x.exponent).toNat

/-- The whole number nearest to `num / den`; of two the even one. -/
def divideNearest (num den : Nat) : Nat :=
  let q := num / den
  let r := num % den
  if den < 2 * r ∨ (2 * r = den ∧ q % 2 = 1) then q + 1 else q

/-- The ratio `num / den` in units of a power of two, as a ratio. -/
def inUnits (num den : Nat) (exponent : Int) : Nat × Nat :=
  (num * Nat.pow 2 (-exponent).toNat, den * Nat.pow 2 exponent.toNat)

/-- The exponent at which the mantissa of `num / den` fills its bits, or the least exponent if that
is greater. -/
def exponentFor (num den : Nat) : Int :=
  let guess : Int := (num.log2 : Int) - den.log2 - 52
  let (n, d) := inUnits num den guess
  max leastExponent (if n < d * fullMantissa then guess - 1 else guess)

/-- The number of the format that is nearest to `num / den`, if that is not too great for it; of
two the one with an even mantissa. -/
def nearest (negative : Bool) (num den : Nat) : Option Binary64 :=
  if num = 0 then some (zero negative)
  else
    let e := exponentFor num den
    let (n, d) := inUnits num den e
    let m := divideNearest n d
    let (m, e) := if m = 2 * fullMantissa then (fullMantissa, e + 1) else (m, e)
    if greatestExponent < e then none else some ⟨negative, m, e⟩

/-- The product of two numbers, rounded; the first gives the sign. -/
def times? (x y : Binary64) : Option Binary64 :=
  nearest x.negative (x.numerator * y.numerator) (x.denominator * y.denominator)

/-- The quotient of two numbers, rounded; the first gives the sign. -/
def over? (x y : Binary64) : Option Binary64 :=
  nearest x.negative (x.numerator * y.denominator) (x.denominator * y.numerator)

end Binary64

end GoStructs
