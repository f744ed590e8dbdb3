/-!
# Binary floating point with 53-bit significands

A `Binary64` is a finite number `± significand · 2 ^ exponent` of the 64-bit interchange format.
The format's significands are below `2 ^ 53` and its exponents lie between `-1074` and `971`; a
significand below `2 ^ 52` occurs only with the least exponent, so every number has one form.  Zero
keeps its sign.

`ofRatio` rounds an exact quotient to the nearest number of the format, a tie going to the even
significand, and gives nothing when the quotient is too large.  Every operation is the exact one
followed by this rounding.
-/

namespace AuthGateway

/-- A finite number of the 64-bit interchange format. -/
structure Binary64 where
  negative : Bool
  significand : Nat
  exponent : Int
  deriving DecidableEq, Repr

namespace Binary64

/-- The least exponent; numbers with smaller significands share it. -/
def minExponent : Int := -1074

/-- The greatest exponent. -/
def maxExponent : Int := 971

/-- Zero with a sign. -/
def zero (negative : Bool) : Binary64 :=
  ⟨negative, 0, minExponent⟩

/-- Whether a number is one of the two zeros. -/
def isZero (x : Binary64) : Bool :=
  x.significand == 0

/-- The number with the opposite sign. -/
def neg (x : Binary64) : Binary64 :=
  { x with negative := !x.negative }

/-! ### Magnitudes as ratios -/

/-- The numerator of the magnitude. -/
def numerator (x : Binary64) : Nat :=
  x.significand * Nat.pow 2 x.exponent.toNat

/-- The denominator of the magnitude, a power of two. -/
def denominator (x : Binary64) : Nat :=
  Nat.pow 2 (-x.exponent).toNat

/-- The numerator with the number's sign. -/
def signedNumerator (x : Binary64) : Int :=
  if x.negative then -(x.numerator : Int) else x.numerator

/-! ### Rounding -/

/-- The quotient rounded to the nearest natural number, a tie to the even one. -/
def roundQuotient (num den : Nat) : Nat :=
  let q := num / den
  let r := num % den
  if den < 2 * r ∨ (2 * r = den ∧ q % 2 = 1) then q + 1 else q

/-- `num / den` divided by `2 ^ e`, as a numerator and a denominator. -/
def scaled (num den : Nat) (e : Int) : Nat × Nat :=
  (num * Nat.pow 2 (-e).toNat, den * Nat.pow 2 e.toNat)

/-- The exponent with which a positive quotient is written: the one that leaves 53 bits before the
binary point, or the least one. -/
def exponentFor (num den : Nat) : Int :=
  let guess : Int := (num.log2 : Int) - den.log2 - 52
  let (n, d) := scaled num den guess
  max minExponent (if n / d < Nat.pow 2 52 then guess - 1 else guess)

/-- The number of the format nearest to `num / den`, or nothing when that is too large. -/
def ofRatio (negative : Bool) (num den : Nat) : Option Binary64 :=
  if num = 0 then
    some (zero negative)
  else
    let e := exponentFor num den
    let (n, d) := scaled num den e
    let m := roundQuotient n d
    let (m, e) := if m = Nat.pow 2 53 then (Nat.pow 2 52, e + 1) else (m, e)
    if maxExponent < e then none else some ⟨negative, m, e⟩

/-! ### Operations -/

/-- The number nearest to a natural number below `2 ^ 1023`; zero beyond the format's range. -/
def ofNat (n : Nat) : Binary64 :=
  (ofRatio false n 1).getD (zero false)

/-- The rounded product. -/
def mul (x y : Binary64) : Option Binary64 :=
  ofRatio (x.negative ^^ y.negative) (x.numerator * y.numerator) (x.denominator * y.denominator)

/-- The rounded quotient by a number other than zero. -/
def div (x y : Binary64) : Option Binary64 :=
  ofRatio (x.negative ^^ y.negative) (x.numerator * y.denominator) (x.denominator * y.numerator)

/-- The rounded sum.  A sum of zero is positive unless both numbers are negative. -/
def add (x y : Binary64) : Option Binary64 :=
  let n := x.signedNumerator * y.denominator + y.signedNumerator * x.denominator
  let negative := if n = 0 then x.negative && y.negative else n < 0
  ofRatio negative n.natAbs (x.denominator * y.denominator)

/-- Whether one number is at most another. -/
def le (x y : Binary64) : Bool :=
  x.signedNumerator * y.denominator ≤ y.signedNumerator * x.denominator

/-- The integer part: the number rounded toward zero. -/
def truncate (x : Binary64) : Int :=
  x.signedNumerator.tdiv x.denominator

/-- The magnitude rounded to the nearest natural number, a half going up. -/
def roundHalfUp (x : Binary64) : Nat :=
  (2 * x.numerator + x.denominator) / (2 * x.denominator)

/-- The number nearest to `10 ^ n`, for `n` up to 308. -/
def powerOfTen (n : Nat) : Binary64 :=
  ofNat (Nat.pow 10 n)

end Binary64

end AuthGateway
