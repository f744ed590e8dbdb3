import AuthGateway.Number.Binary64

/-!
# The shortest decimal text of a number

Of all decimals that round to a given number, `shortest` picks the one with the fewest digits, and
among those the nearest to the number, a tie going to the even last digit.  For one digit, two
digits and so on it looks at the number's two neighbours among the decimals of that many digits;
seventeen digits always suffice.

Two written forms share these digits: `positional`, which never has an exponent, and the form of
JSON numbers in `AuthGateway.Json.Printer`.
-/

namespace AuthGateway

/-- A positive decimal `d.ddd · 10 ^ exponent` by its digits, the first of them before the point. -/
structure Decimal where
  digits : List Char
  exponent : Int
  deriving DecidableEq, Repr

namespace Decimal

/-- The greatest `k` with `10 ^ k ≤ num / den`, for a positive quotient. -/
def magnitude (num den : Nat) : Int :=
  let guess : Int := ((Nat.toDigits 10 num).length : Int) - (Nat.toDigits 10 den).length
  if den * Nat.pow 10 guess.toNat ≤ num * Nat.pow 10 (-guess).toNat then guess else guess - 1

/-- The decimals that round to a number, as an interval of ratios over one denominator. -/
structure Interval where
  low : Nat
  value : Nat
  high : Nat
  denominator : Nat
  /-- Whether the two ends round to the number as well. -/
  closed : Bool

/-- The interval of a number: up to half the distance to its neighbours.  Below a power of two the
neighbour is half as far away. -/
def Interval.of (x : Binary64) : Interval :=
  let below := if x.significand = Nat.pow 2 52 ∧ Binary64.minExponent < x.exponent then 1 else 2
  let e := x.exponent - 2
  let scale := Nat.pow 2 e.toNat
  { low := (4 * x.significand - below) * scale
    value := 4 * x.significand * scale
    high := (4 * x.significand + 2) * scale
    denominator := Nat.pow 2 (-e).toNat
    closed := x.significand % 2 = 0 }

/-- Whether `c · 10 ^ k` lies in the interval. -/
def Interval.contains (i : Interval) (c : Nat) (k : Int) : Bool :=
  let n := c * Nat.pow 10 k.toNat * i.denominator
  let shift := Nat.pow 10 (-k).toNat
  if i.closed then i.low * shift ≤ n && n ≤ i.high * shift
  else i.low * shift < n && n < i.high * shift

/-- The multiple of `10 ^ k` in the interval that is nearest to its value, if there is one. -/
def Interval.onGrid (i : Interval) (k : Int) : Option Nat :=
  let num := i.value * Nat.pow 10 (-k).toNat
  let den := i.denominator * Nat.pow 10 k.toNat
  let c := num / den
  match i.contains c k, i.contains (c + 1) k with
  | true, true => some (Binary64.roundQuotient num den)
  | true, false => some c
  | false, true => some (c + 1)
  | false, false => none

/-- The digits of a natural number without its final zeros. -/
def significantDigits (n : Nat) : List Char :=
  ((Nat.toDigits 10 n).reverse.dropWhile (· == '0')).reverse

/-- Search the grids of `digits`, `digits + 1`, … digits, at most `fuel` of them. -/
def search (i : Interval) (magnitude : Int) (digits : Nat) : Nat → Decimal
  | 0 => ⟨['0'], 0⟩
  | fuel + 1 =>
    let k := magnitude - digits + 1
    match i.onGrid k with
    | some c => ⟨significantDigits c, k + (Nat.toDigits 10 c).length - 1⟩
    | none => search i magnitude (digits + 1) fuel

/-- The shortest decimal that rounds to the magnitude of `x`. -/
def shortest (x : Binary64) : Decimal :=
  if x.isZero then ⟨['0'], 0⟩
  else
    let i := Interval.of x
    search i (magnitude i.value i.denominator) 1 17

/-! ### Written forms -/

/-- The digits before the point, and the digits after it. -/
def split (d : Decimal) : List Char × List Char :=
  if d.exponent < 0 then
    (['0'], List.replicate (-d.exponent - 1).toNat '0' ++ d.digits)
  else
    let n := d.exponent.toNat + 1
    (d.digits.take n ++ List.replicate (n - d.digits.length) '0', d.digits.drop n)

/-- Write a number without an exponent; a whole number has no point. -/
def positional (x : Binary64) : List Char :=
  let (whole, fraction) := (shortest x).split
  (if x.negative then ['-'] else []) ++ whole
    ++ (if fraction = [] then [] else '.' :: fraction)

end Decimal

end AuthGateway
