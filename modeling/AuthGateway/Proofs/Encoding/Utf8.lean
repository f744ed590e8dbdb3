import AuthGateway.Encoding.Bytes
import Mathlib.Tactic.SplitIfs

/-!
# The bytes of a text, character by character

`Utf8.bytesOf` gives the bytes of a list of characters; it turns appending texts into appending
bytes.  The bytes of a text are those of its characters (`encode_eq_bytesOf`), an ASCII character
has itself as its only byte (`bytesOf_cons_ascii`), and all bytes of other characters lie above
ASCII (`le_of_mem_utf8EncodeChar`).
-/

namespace AuthGateway.Utf8

/-- The bytes of some characters. -/
def bytesOf (cs : List Char) : Bytes :=
  cs.flatMap String.utf8EncodeChar

@[simp] theorem bytesOf_nil : bytesOf [] = [] :=
  rfl

theorem bytesOf_cons (c : Char) (cs : List Char) :
    bytesOf (c :: cs) = String.utf8EncodeChar c ++ bytesOf cs :=
  List.flatMap_cons

@[simp] theorem bytesOf_append (cs ds : List Char) :
    bytesOf (cs ++ ds) = bytesOf cs ++ bytesOf ds :=
  List.flatMap_append

theorem encode_ofList (cs : List Char) : encode (String.ofList cs) = bytesOf cs := by
  rw [encode, String.toUTF8_eq_toByteArray, String.toByteArray_ofList, List.utf8Encode,
    List.data_toByteArray, bytesOf]

/-- The bytes of a text are those of its characters. -/
theorem encode_eq_bytesOf (s : String) : encode s = bytesOf s.toList := by
  rw [← encode_ofList, String.ofList_toList]

/-- Bytes that are read as a text are the bytes of the text. -/
theorem encode_of_decode {b : Bytes} {s : String} (h : decode b = some s) : encode s = b := by
  unfold decode String.fromUTF8? at h
  split_ifs at h
  rw [← Option.some.inj h]
  rfl

/-- An ASCII character is its own byte. -/
theorem utf8EncodeChar_ascii {c : Char} (h : c.toNat < 128) :
    String.utf8EncodeChar c = [c.toNat.toUInt8] := by
  have hle : c.val.toNat ≤ 0x7f := Nat.le_of_lt_succ h
  rw [String.utf8EncodeChar]
  simp only [hle, ↓reduceIte]
  rfl

/-- An ASCII character at the front is its own byte. -/
theorem bytesOf_cons_ascii {c : Char} (h : c.toNat < 128) (cs : List Char) :
    bytesOf (c :: cs) = c.toNat.toUInt8 :: bytesOf cs := by
  rw [bytesOf_cons, utf8EncodeChar_ascii h]
  rfl

/-- The bytes of other characters lie above ASCII. -/
theorem le_of_mem_utf8EncodeChar {c : Char} (h : 128 ≤ c.toNat) :
    ∀ b ∈ String.utf8EncodeChar c, 128 ≤ b.toNat := by
  have hlo : ¬ c.val.toNat ≤ 0x7f := Nat.not_le_of_lt h
  rw [String.utf8EncodeChar]
  simp only [hlo, ↓reduceIte]
  split
  · simp only [List.mem_cons, List.not_mem_nil, or_false]
    rintro b (rfl | rfl) <;> simp only [UInt8.toNat_ofNat'] <;> omega
  · split
    · simp only [List.mem_cons, List.not_mem_nil, or_false]
      rintro b (rfl | rfl | rfl) <;> simp only [UInt8.toNat_ofNat'] <;> omega
    · simp only [List.mem_cons, List.not_mem_nil, or_false]
      rintro b (rfl | rfl | rfl | rfl) <;> simp only [UInt8.toNat_ofNat'] <;> omega

end AuthGateway.Utf8
