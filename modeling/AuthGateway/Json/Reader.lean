import AuthGateway.Json.Raw
import AuthGateway.Json.Value

/-!
# Reading JSON values

A text is read in two steps: `Raw.read` takes its structure from the grammar, and `ofRaw` gives it
a meaning.  The second step can fail: a number may exceed the range of floating point, and a
string may hold half of a surrogate pair or bytes that are not UTF-8.
-/

namespace AuthGateway.Json

/-! ### Numbers -/

/-- Append digits to a number for as long as it stays below `2 ^ 64`; gives the number and the
digits left over. -/
def takeDigits (n : Nat) : List Nat → Nat × List Nat
  | [] => (n, [])
  | d :: ds => if 10 * n + d < UInt64.size then takeDigits (10 * n + d) ds else (n, d :: ds)

/-- Divide by `10 ^ e` in steps of at most 308 powers, rounding after each. -/
def scaleDown (x : Binary64) (e : Nat) : Option Binary64 :=
  if e ≤ 308 then x.div (Binary64.powerOfTen e)
  else if x.isZero then some x
  else do scaleDown (← x.div (Binary64.powerOfTen 308)) (e - 308)
termination_by e

/-- `significand · 10 ^ exponent`, rounded once for the significand and once for the scaling. -/
def floatOf (significand : Nat) (exponent : Int) : Option Binary64 :=
  let x := Binary64.ofNat significand
  if exponent < 0 then scaleDown x exponent.natAbs
  else if exponent ≤ 308 then x.mul (Binary64.powerOfTen exponent.toNat)
  else if x.isZero then some x
  else none

/-- The value of digits. -/
def digitsValue (ds : List Nat) : Nat :=
  ds.foldl (fun n d => 10 * n + d) 0

/-- The greatest exponent that is taken at its word; beyond it a number is zero or out of range. -/
def maxExponentPart : Nat := 0x7FFFFFFF

/-- Attach the sign to a magnitude. -/
def signed (negative : Bool) (x : Binary64) : Number :=
  .float (if negative then x.neg else x)

/-- The number a literal stands for.

Literals without a point and an exponent are integers when they fit 64 bits, signed or unsigned;
minus zero is not among them.  All others are floating point: their digits are taken up as long as
they fit a 64-bit word, whole digits beyond that only count as powers of ten, and further digits of
the fraction are dropped. -/
def ofLiteral (l : NumberLiteral) : Option Number :=
  let (significand, left) := takeDigits 0 l.whole
  match l.fraction, l.exponent, left with
  | none, none, [] =>
    if !l.negative then some (.integer significand)
    else if 0 < significand ∧ significand ≤ 0x8000000000000000 then some (.integer (-significand))
    else some (signed true (Binary64.ofNat significand))
  | fraction, exponent, left =>
    let fraction := fraction.getD []
    let (significand, dropped) := takeDigits significand fraction
    let shift : Int := (left.length : Int) - (fraction.length - dropped.length : Nat)
    match exponent with
    | none => (floatOf significand shift).map (signed l.negative)
    | some e =>
      let n := digitsValue e.digits
      if n ≤ maxExponentPart then
        let n : Int := if e.negative then -n else n
        (floatOf significand (shift + n)).map (signed l.negative)
      else if significand = 0 ∨ e.negative then some (signed l.negative (Binary64.zero false))
      else none

/-! ### Strings -/

/-- The first half of a surrogate pair. -/
def isHighSurrogate (n : Nat) : Bool := 0xD800 ≤ n && n ≤ 0xDBFF

/-- The second half of a surrogate pair. -/
def isLowSurrogate (n : Nat) : Bool := 0xDC00 ≤ n && n ≤ 0xDFFF

/-- The bytes of the character with a code point that is no surrogate. -/
def encodeCodePoint (n : Nat) : Bytes :=
  Utf8.encode (String.singleton (Char.ofNat n))

/-- The bytes that pieces stand for.  A surrogate must be followed by its other half at once. -/
def bytesOfPieces : List StringPiece → Option Bytes
  | [] => some []
  | .byte b :: rest => (bytesOfPieces rest).map (b :: ·)
  | .unit n :: .unit m :: rest =>
    if isHighSurrogate n then
      if isLowSurrogate m then
        (bytesOfPieces rest).map
          (encodeCodePoint (0x10000 + (n - 0xD800) * 0x400 + (m - 0xDC00)) ++ ·)
      else none
    else if isLowSurrogate n then none
    else (bytesOfPieces (.unit m :: rest)).map (encodeCodePoint n ++ ·)
  | .unit n :: rest =>
    if isHighSurrogate n || isLowSurrogate n then none
    else (bytesOfPieces rest).map (encodeCodePoint n ++ ·)

/-- The text that pieces stand for. -/
def ofPieces (pieces : List StringPiece) : Option String := do
  Utf8.decode (← bytesOfPieces pieces)

/-! ### Values -/

mutual

/-- The value of a structure. -/
def ofRaw : Raw → Option Json
  | .null => some .null
  | .bool b => some (.bool b)
  | .number l => (ofLiteral l).map .number
  | .string pieces => (ofPieces pieces).map .string
  | .array items => (ofRawItems items).map .array
  | .object members => (ofRawMembers members).map ofBindings

/-- The values of items. -/
def ofRawItems : List Raw → Option (List Json)
  | [] => some []
  | item :: rest => do return (← ofRaw item) :: (← ofRawItems rest)

/-- The bindings of members, in the order they stand in. -/
def ofRawMembers : List (List StringPiece × Raw) → Option (List (String × Json))
  | [] => some []
  | (name, item) :: rest => do
    return (← ofPieces name, ← ofRaw item) :: (← ofRawMembers rest)

end

/-- The greatest number of containers around a value. -/
def maxDepth : Nat := 127

/-- Read the value of a text. -/
def ofBytes? (s : Bytes) : Option Json := do
  ofRaw (← Raw.read maxDepth s)

/-- Read the value of a text. -/
def ofString? (s : String) : Option Json :=
  ofBytes? (Utf8.encode s)

end AuthGateway.Json
