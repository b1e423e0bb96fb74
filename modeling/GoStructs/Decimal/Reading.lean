import GoStructs.Decimal.Binary
import GoStructs.Text.Reading
/-! # Reading decimal fractions

There are two ways to read a decimal fraction.  `Written.nearest?` rounds it once.
`Written.binary?` takes two steps, each of which rounds: the digits that fit into 64 bits become a
number, and that is multiplied or divided by a power of ten. -/

namespace GoStructs.Decimal

/-- A number as it is written: a sign, the digits before and behind the point, and an exponent of
ten. -/
structure Written where
  negative : Bool
  whole : List Char
  fraction : List Char
  exponent : Int
  deriving Repr, Inhabited

/-! ## In one step -/

/-- No number of the format has its first decimal digit this far from the point. -/
def farPoint : Int := 400

/-- The number nearest to the one that is written, unless that is too great for the format. -/
def Written.nearest? (w : Written) : Option Binary64 :=
  let n := Text.natOfDigits 10 (w.whole ++ w.fraction)
  let k := w.exponent - w.fraction.length
  let point := (Nat.toDigits 10 n).length + k
  if n = 0 ∨ point < -farPoint then some (Binary64.zero w.negative)
  else if farPoint < point then none
  else Binary64.nearest w.negative (n * Nat.pow 10 k.toNat) (Nat.pow 10 (-k).toNat)

/-! ## In two steps -/

/-- Numbers below this fit into 64 bits. -/
def wordLimit : Nat := 0x10000000000000000

/-- Appends digits to a number as long as it fits into 64 bits, and counts those that are left. -/
def absorb (n : Nat) : List Char → Nat × Nat
  | [] => (n, 0)
  | c :: r =>
    let n' := 10 * n + Text.digitValue c
    if n' < wordLimit then absorb n' r else (n, r.length + 1)

/-- The digits of a written number that count, and the power of ten that they are to be multiplied
with. -/
def Written.scaled (w : Written) : Nat × Int :=
  let (n, dropped) := absorb 0 w.whole
  let (n, ignored) := absorb n w.fraction
  (n, dropped - ((w.fraction.length : Int) - ignored) + w.exponent)

/-- The greatest power of ten in the format. -/
def greatestPower : Nat := 308

/-- The power of ten nearest to `10 ^ k`. -/
def powerOfTen (k : Nat) : Option Binary64 := Binary64.nearest false (Nat.pow 10 k) 1

/-- Multiplies by a power of ten, rounding once.  A power that is too small for the format is taken
in steps, of which there are at most `steps`. -/
def scale? : Nat → Binary64 → Int → Option Binary64
  | 0, x, _ => some x
  | steps + 1, x, k =>
    if x.isZero then some x
    else if 0 ≤ k then
      if k ≤ greatestPower then (powerOfTen k.toNat).bind x.times? else none
    else if -k ≤ greatestPower then (powerOfTen (-k).toNat).bind x.over?
    else
      ((powerOfTen greatestPower).bind x.over?).bind fun y => scale? steps y (k + greatestPower)

/-- More steps than it takes from the greatest number of 64 bits down to zero. -/
def scaleSteps : Nat := 4

/-- The number that is written, if it is not too great for the format. -/
def Written.binary? (w : Written) : Option Binary64 :=
  let (n, k) := w.scaled
  (Binary64.nearest w.negative n 1).bind fun x => scale? scaleSteps x k

end GoStructs.Decimal
