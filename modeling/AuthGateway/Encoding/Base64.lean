import AuthGateway.Encoding.Bytes

/-!
# Base64

Three bytes are written as four characters of six bits each.  A final group of one or two bytes
has two or three characters, and the bits of its last character that belong to no byte are zero:
`decode` refuses any other spelling, so every byte string has exactly one.

Tokens use the URL alphabet without padding; key files use the standard alphabet and fill the last
group up with `=`.
-/

namespace AuthGateway.Base64

/-- The two characters in which the alphabets differ. -/
structure Alphabet where
  char62 : Char
  char63 : Char
  deriving DecidableEq, Repr

/-- The alphabet of tokens. -/
def url : Alphabet := ⟨'-', '_'⟩

/-- The alphabet of key files. -/
def standard : Alphabet := ⟨'+', '/'⟩

/-- The character of six bits. -/
def Alphabet.char (a : Alphabet) (n : Nat) : Char :=
  if n < 26 then Char.ofNat ('A'.toNat + n)
  else if n < 52 then Char.ofNat ('a'.toNat + (n - 26))
  else if n < 62 then Char.ofNat ('0'.toNat + (n - 52))
  else if n = 62 then a.char62
  else a.char63

/-- The six bits of a character. -/
def Alphabet.bits? (a : Alphabet) (c : Char) : Option Nat :=
  if 'A' ≤ c ∧ c ≤ 'Z' then some (c.toNat - 'A'.toNat)
  else if 'a' ≤ c ∧ c ≤ 'z' then some (c.toNat - 'a'.toNat + 26)
  else if '0' ≤ c ∧ c ≤ '9' then some (c.toNat - '0'.toNat + 52)
  else if c = a.char62 then some 62
  else if c = a.char63 then some 63
  else none

/-! ### Groups -/

/-- Bytes in groups of six bits. -/
def sextets : Bytes → List Nat
  | a :: b :: c :: rest =>
    a.toNat / 4 :: (a.toNat % 4 * 16 + b.toNat / 16) :: (b.toNat % 16 * 4 + c.toNat / 64)
      :: c.toNat % 64 :: sextets rest
  | [a, b] => [a.toNat / 4, a.toNat % 4 * 16 + b.toNat / 16, b.toNat % 16 * 4]
  | [a] => [a.toNat / 4, a.toNat % 4 * 16]
  | [] => []

/-- The bytes of groups of six bits; left-over bits must be zero. -/
def bytes? : List Nat → Option Bytes
  | a :: b :: c :: d :: rest =>
    (bytes? rest).map fun tail =>
      (a * 4 + b / 16).toUInt8 :: (b % 16 * 16 + c / 4).toUInt8 :: (c % 4 * 64 + d).toUInt8 :: tail
  | [a, b, c] =>
    if c % 4 = 0 then some [(a * 4 + b / 16).toUInt8, (b % 16 * 16 + c / 4).toUInt8] else none
  | [a, b] => if b % 16 = 0 then some [(a * 4 + b / 16).toUInt8] else none
  | [_] => none
  | [] => some []

/-! ### Texts -/

/-- The text of some bytes, without padding. -/
def encode (a : Alphabet) (s : Bytes) : List Char :=
  (sextets s).map a.char

/-- The bytes of a text without padding. -/
def decode (a : Alphabet) (s : List Char) : Option Bytes :=
  (s.mapM a.bits?).bind bytes?

/-- The bytes of a text whose last group is filled up to four characters. -/
def decodePadded (a : Alphabet) (s : List Char) : Option Bytes :=
  let text := s.takeWhile (· ≠ '=')
  let padding := s.drop text.length
  if padding = List.replicate ((4 - text.length % 4) % 4) '=' then decode a text else none

end AuthGateway.Base64
