/-!
# Bytes of texts

The bytes of a text are its UTF-8 encoding, and well-formed bytes are those of a text.

A percent sign and two hexadecimal digits stand for a byte; a percent sign that is followed by
anything else stands for itself.
-/

namespace AuthGateway

/-- Bytes as they stand in a message or a file. -/
abbrev Bytes := List UInt8

/-! ### UTF-8 -/

namespace Utf8

/-- The bytes of a text. -/
def encode (s : String) : Bytes :=
  s.toUTF8.data.toList

/-- The text of some bytes, when they are well formed. -/
def decode (b : Bytes) : Option String :=
  String.fromUTF8? ⟨b.toArray⟩

/-- Reading back the bytes of a text gives the text. -/
@[simp] theorem decode_encode (s : String) : decode (encode s) = some s := by
  simp only [decode, encode, Array.toArray_toList, String.fromUTF8?, String.toUTF8_eq_toByteArray,
    dif_pos s.isValidUTF8]
  rfl

end Utf8

/-! ### Percent encoding -/

namespace Percent

/-- The value of a hexadecimal digit. -/
def digit? (b : UInt8) : Option UInt8 :=
  if 0x30 ≤ b ∧ b ≤ 0x39 then some (b - 0x30)
  else if 0x41 ≤ b ∧ b ≤ 0x46 then some (b - 0x37)
  else if 0x61 ≤ b ∧ b ≤ 0x66 then some (b - 0x57)
  else none

/-- The byte that a pair of digits stands for. -/
def pair? (high low : UInt8) : Option UInt8 :=
  match digit? high, digit? low with
  | some h, some l => some (h * 16 + l)
  | _, _ => none

/-- The percent sign. -/
def sign : UInt8 := 0x25

/-- The bytes that some bytes stand for. -/
def decodeBytes : Bytes → Bytes
  | [] => []
  | [a] => [a]
  | [a, b] => [a, b]
  | a :: b :: c :: rest =>
    match (if a = sign then pair? b c else none) with
    | some x => x :: decodeBytes rest
    | none => a :: decodeBytes (b :: c :: rest)

/-- The text that a text stands for, when its bytes are well formed. -/
def decode? (s : String) : Option String :=
  Utf8.decode (decodeBytes (Utf8.encode s))

end Percent

end AuthGateway
