import AuthGateway.Encoding.Bytes

/-!
# DER

Key files hold nested blocks, each with a tag, a length and a content.  `read` checks the content of
every universal type it knows, and keeps those that say what a key is and where it stands:
sequences, integers, object identifiers, bit strings and octet strings.  All other blocks, tagged
ones among them, are passed over whole.

A block that should hold blocks must hold at least one, and so must the text itself.
-/

namespace AuthGateway.Der

/-- A block. -/
inductive Block where
  | sequence (items : List Block)
  | integer (content : Bytes)
  | identifier (arcs : List Nat)
  | bits (content : Bytes)
  | octets (content : Bytes)
  /-- A block whose content is of no interest here. -/
  | other
  deriving BEq, Repr, Inhabited

/-! ### Tags and lengths -/

/-- A number in groups of seven bits, most significant first; all bytes but the last have their
highest bit set. -/
def base128 (n : Nat) : Bytes → Option (Nat × Bytes)
  | [] => none
  | b :: s =>
    let n := n * 128 + b.toNat % 128
    if b.toNat < 128 then some (n, s) else base128 n s

/-- What a tag says: whether the type is universal, and its number. -/
structure Tag where
  isUniversal : Bool
  number : Nat
  deriving DecidableEq, Repr

/-- A tag, and what follows it. -/
def tag? : Bytes → Option (Tag × Bytes)
  | [] => none
  | b :: s =>
    let isUniversal := b.toNat / 64 = 0
    if b.toNat % 32 = 31 then (base128 0 s).map fun (n, rest) => (⟨isUniversal, n⟩, rest)
    else some (⟨isUniversal, b.toNat % 32⟩, s)

/-- A number from its bytes, most significant first. -/
def natOfBytes (s : Bytes) : Nat :=
  s.foldl (fun n b => n * 256 + b.toNat) 0

/-- A length, and what follows it.  Lengths of 128 and more say how many bytes they have, at most
eight. -/
def length? : Bytes → Option (Nat × Bytes)
  | [] => none
  | b :: s =>
    if b.toNat < 128 then some (b.toNat, s)
    else
      let n := b.toNat - 128
      if n ≤ 8 ∧ n ≤ s.length then some (natOfBytes (s.take n), s.drop n) else none

/-! ### Contents -/

/-- The further arcs of an object identifier. -/
def arcs : Nat → Bytes → Option (List Nat)
  | _, [] => some []
  | 0, _ => none
  | fuel + 1, s => do
    let (n, rest) ← base128 0 s
    return n :: (← arcs fuel rest)

/-- An object identifier.  The first byte holds two arcs. -/
def identifier? : Bytes → Option (List Nat)
  | [] => none
  | b :: s =>
    let first := min (b.toNat / 40) 2
    (arcs s.length s).map fun rest => first :: (b.toNat - 40 * first) :: rest

/-- The bits of a bit string, whose first byte counts the unused ones. -/
def bits? : Bytes → Option Bytes
  | [] => some []
  | unused :: s => if unused.toNat ≤ 8 * s.length then some s else none

/-- The characters of the restricted ASCII string type. -/
def isPrintable (b : UInt8) : Bool :=
  let c := Char.ofNat b.toNat
  c.isAlphanum || " ()+,-./:=?".toList.contains c || b = 0x27

/-- Whether a byte is a decimal digit. -/
def isDigit (b : UInt8) : Bool :=
  0x30 ≤ b && b ≤ 0x39

/-- Two decimal digits. -/
def twoDigits? (a b : UInt8) : Option Nat :=
  if isDigit a ∧ isDigit b then
    some ((a.toNat - 0x30) * 10 + (b.toNat - 0x30))
  else none

/-- The days of a month. -/
def daysIn (year month : Nat) : Nat :=
  if month = 2 then if (year % 4 = 0 ∧ year % 100 ≠ 0) ∨ year % 400 = 0 then 29 else 28
  else if [4, 6, 9, 11].contains month then 30
  else 31

/-- Whether ten digits are a month, a day, an hour, a minute and a second of a year. -/
def isMoment (year : Nat) : Bytes → Bool
  | [m1, m2, d1, d2, h1, h2, n1, n2, s1, s2] =>
    match twoDigits? m1 m2, twoDigits? d1 d2, twoDigits? h1 h2, twoDigits? n1 n2,
      twoDigits? s1 s2 with
    | some month, some day, some hour, some minute, some second =>
      (1 ≤ month && month ≤ 12) && (1 ≤ day && day ≤ daysIn year month) && hour < 24
        && minute < 60 && second < 60
    | _, _, _, _, _ => false
  | _ => false

/-- A time whose year has two digits; from 50 on they mean the last century. -/
def isShortTime (s : Bytes) : Bool :=
  match s with
  | y1 :: y2 :: rest =>
    match twoDigits? y1 y2, rest.getLast? with
    | some y, some 0x5A =>
      rest.length = 11 && isMoment (if 50 ≤ y then 1900 + y else 2000 + y) (rest.take 10)
    | _, _ => false
  | _ => false

/-- The most digits that a fraction of a second may have. -/
def maxFractionDigits : Nat := 32

/-- Whether a text is a fraction of a second: digits, with or without a point before them. -/
def isFraction : Bytes → Bool
  | 0x2E :: digits => digits.all isDigit && digits.length ≤ maxFractionDigits
  | digits => digits.all isDigit && digits.length ≤ maxFractionDigits

/-- A time whose year has four digits, with digits of a second. -/
def isPlainLongTime (s : Bytes) : Bool :=
  match s with
  | c1 :: c2 :: y1 :: y2 :: rest =>
    match twoDigits? c1 c2, twoDigits? y1 y2, rest.getLast? with
    | some c, some y, some 0x5A =>
      isMoment (100 * c + y) (rest.take 10) && isFraction (rest.drop 10).dropLast
    | _, _, _ => false
  | _ => false

/-- A time whose year has four digits.  The year may have a sign where a point sets the digits of a
second apart. -/
def isLongTime (s : Bytes) : Bool :=
  match s with
  | b :: rest =>
    if b = 0x2B ∨ b = 0x2D then rest.contains 0x2E && isPlainLongTime rest else isPlainLongTime s
  | [] => false

/-! ### Blocks -/

/-- A block of a universal type, given how to read the blocks inside it. -/
def universal? (inside : Bytes → Option (List Block)) (number : Nat) (content : Bytes) :
    Option Block :=
  let passOver (condition : Bool) : Option Block := if condition then some .other else none
  match number with
  | 0x01 => passOver (content.length = 1)
  | 0x02 => some (.integer content)
  | 0x03 => (bits? content).map .bits
  | 0x04 => some (.octets content)
  | 0x06 => (identifier? content).map .identifier
  | 0x0C | 0x14 | 0x1C | 0x1E => passOver (Utf8.decode content).isSome
  | 0x10 => (inside content).map .sequence
  | 0x11 => (inside content).map fun _ => .other
  | 0x13 => passOver (content.all isPrintable)
  | 0x17 => passOver (isShortTime content)
  | 0x18 => passOver (isLongTime content)
  | _ => some .other

/-- One or more blocks, with nothing after them.  Every block takes at least two bytes, so fuel of
the length of the text suffices. -/
def readBlocks : Nat → Bytes → Option (List Block)
  | 0, _ => none
  | fuel + 1, s => do
    let (tag, s) ← tag? s
    let (n, s) ← length? s
    guard (n ≤ s.length)
    let block ← if tag.isUniversal then universal? (readBlocks fuel) tag.number (s.take n)
      else some .other
    let rest := s.drop n
    if rest = [] then return [block] else return block :: (← readBlocks fuel rest)

/-- The blocks of a text. -/
def read (s : Bytes) : Option (List Block) :=
  readBlocks (s.length + 1) s

end AuthGateway.Der
