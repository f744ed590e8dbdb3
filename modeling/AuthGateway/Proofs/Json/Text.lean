import AuthGateway.Json.Printer
import AuthGateway.Json.Reader
import AuthGateway.Proofs.Encoding.Utf8
import Mathlib.Tactic.SplitIfs

/-!
# Strings in JSON texts

Every string reads back from its text, whatever characters it holds.  Between the quotes a character
is a short escape, a `\u` escape or its own bytes; each of the three is read in one step
(`readString_escape`, `readString_unit`, `readString_plain`), which together read a character
(`readString_escapeChar`) and then a whole string (`readString_printString`).  What is read means
the string (`ofPieces_piecesOf`).
-/

namespace AuthGateway.Json

/-! ### Characters as pieces -/

/-- Whether a character is written by its number: it lies below the space and has no short
escape. -/
def isNumbered (c : Char) : Bool :=
  c.toNat < 0x20 && !(['\x08', '\x0c', '\n', '\r', '\t'].contains c)

/-- The pieces that a character reads as: its number, or its bytes. -/
def piecesOf (c : Char) : List StringPiece :=
  if isNumbered c then [.unit c.toNat] else (String.utf8EncodeChar c).map .byte

/-- A character that stands for itself inside quotes. -/
def isPlain (c : Char) : Bool :=
  0x20 ≤ c.toNat && c ≠ '"' && c ≠ '\\'

/-! ### Steps of reading -/

namespace Raw

/-- Put pieces before what is read. -/
def prepend (pieces : List StringPiece) (r : List StringPiece × Bytes) :
    List StringPiece × Bytes :=
  (pieces ++ r.1, r.2)

theorem readString_escape {b e : UInt8} (he : shortEscape b = some e) (hb : b ≠ 0x75) (s : Bytes) :
    readString (0x5C :: b :: s) = (readString s).map (prepend [.byte e]) := by
  rw [readString.eq_3 b s fun _ _ _ _ _ h => absurd h hb, he]
  cases readString s <;> rfl

theorem readString_unit {a b c d : UInt8} {n : Nat} (h : hexUnit a b c d = some n) (s : Bytes) :
    readString (0x5C :: 0x75 :: a :: b :: c :: d :: s)
      = (readString s).map (prepend [.unit n]) := by
  rw [readString, h]
  cases readString s <;> rfl

theorem readString_plain {b : UInt8} (hlo : 0x20 ≤ b.toNat) (hquote : b ≠ 0x22)
    (hslash : b ≠ 0x5C) (s : Bytes) :
    readString (b :: s) = (readString s).map (prepend [.byte b]) := by
  have hspace : ¬ b < 0x20 := by
    rw [UInt8.lt_iff_toNat_lt]
    exact Nat.not_lt_of_le hlo
  rw [readString.eq_4 b s hquote (fun _ _ _ _ _ h => absurd h hslash)
    fun _ _ h => absurd h hslash, if_neg (by simp [hspace, hslash])]
  cases readString s <;> rfl

/-- Bytes that stand for themselves are read one by one. -/
theorem readString_bytes {bs : Bytes}
    (h : ∀ b ∈ bs, 0x20 ≤ b.toNat ∧ b ≠ 0x22 ∧ b ≠ 0x5C) (s : Bytes) :
    readString (bs ++ s) = (readString s).map (prepend (bs.map .byte)) := by
  induction bs with
  | nil =>
    rw [List.nil_append]
    cases readString s <;> rfl
  | cons b bs ih =>
    obtain ⟨hlo, hquote, hslash⟩ := h b List.mem_cons_self
    rw [List.cons_append, readString_plain hlo hquote hslash,
      ih fun x hx => h x (List.mem_cons_of_mem b hx)]
    cases readString s <;> rfl

/-- The bytes of a character that stands for itself stand for themselves. -/
theorem bytes_of_isPlain {c : Char} (h : isPlain c) :
    ∀ b ∈ String.utf8EncodeChar c, 0x20 ≤ b.toNat ∧ b ≠ 0x22 ∧ b ≠ 0x5C := by
  simp only [isPlain, Bool.and_eq_true, decide_eq_true_eq] at h
  obtain ⟨⟨hlo, hquote⟩, hslash⟩ := h
  intro b hb
  by_cases hascii : c.toNat < 128
  · -- the byte is the character, which is neither of the two
    rw [Utf8.utf8EncodeChar_ascii hascii, List.mem_singleton] at hb
    have hval : b.toNat = c.toNat := by
      rw [hb]
      exact Nat.mod_eq_of_lt (by omega)
    refine ⟨by omega, ?_, ?_⟩
    · rintro rfl
      exact hquote (Char.toNat_inj.1 hval.symm)
    · rintro rfl
      exact hslash (Char.toNat_inj.1 hval.symm)
  · have hhi := Utf8.le_of_mem_utf8EncodeChar (Nat.le_of_not_lt hascii) b hb
    refine ⟨by omega, ?_, ?_⟩
    · rintro rfl
      exact absurd hhi (by decide)
    · rintro rfl
      exact absurd hhi (by decide)

/-- The four digits of the number of a character below the space. -/
theorem hexUnit_hexDigit : ∀ n < 0x20,
    hexUnit 0x30 0x30 (hexDigit (n / 16)).toNat.toUInt8 (hexDigit (n % 16)).toNat.toUInt8
      = some n := by
  decide

/-- The bytes of an escape by number. -/
theorem bytesOf_number : ∀ n < 0x20,
    Utf8.bytesOf ['\\', 'u', '0', '0', Json.hexDigit (n / 16), Json.hexDigit (n % 16)]
      = [0x5C, 0x75, 0x30, 0x30, (Json.hexDigit (n / 16)).toNat.toUInt8,
          (Json.hexDigit (n % 16)).toNat.toUInt8] := by
  decide

/-- A character is read as its pieces. -/
theorem readString_escapeChar (c : Char) (s : Bytes) :
    readString (Utf8.bytesOf (escapeChar c) ++ s) = (readString s).map (prepend (piecesOf c)) := by
  unfold escapeChar
  split_ifs with h1 h2 h3 h4 h5 h6 h7 h8
  -- the characters with an escape of one letter
  iterate 7
    · subst_vars
      exact readString_escape (by decide) (by decide) s
  · have hnumbered : isNumbered c := by simp [isNumbered, h3, h4, h5, h6, h7, h8]
    rw [piecesOf, if_pos hnumbered, bytesOf_number c.toNat h8]
    exact readString_unit (hexUnit_hexDigit c.toNat h8) s
  · have hplain : isPlain c := by simp [isPlain, h1, h2]; omega
    have hnumbered : ¬ isNumbered c := by simp [isNumbered]; omega
    rw [piecesOf, if_neg hnumbered, Utf8.bytesOf_cons, Utf8.bytesOf_nil, List.append_nil]
    exact readString_bytes (bytes_of_isPlain hplain) s

/-- A string is read as the pieces of its characters, up to its closing quote. -/
theorem readString_printString (cs : List Char) (s : Bytes) :
    readString (Utf8.bytesOf (cs.flatMap escapeChar) ++ 0x22 :: s)
      = some (cs.flatMap piecesOf, s) := by
  induction cs with
  | nil => rfl
  | cons c cs ih =>
    rw [List.flatMap_cons, Utf8.bytesOf_append, List.append_assoc, readString_escapeChar, ih]
    rfl

end Raw

/-! ### Meaning -/

/-- A piece that is no surrogate stands for its character, whatever follows it. -/
theorem bytesOfPieces_unit {n : Nat} (hhigh : isHighSurrogate n = false)
    (hlow : isLowSurrogate n = false) (rest : List StringPiece) :
    bytesOfPieces (.unit n :: rest) = (bytesOfPieces rest).map (encodeCodePoint n ++ ·) := by
  rcases rest with _ | ⟨b | m, rest⟩ <;> simp [bytesOfPieces, hhigh, hlow]

/-- Bytes stand for themselves. -/
theorem bytesOfPieces_bytes (bs : Bytes) (rest : List StringPiece) :
    bytesOfPieces (bs.map .byte ++ rest) = (bytesOfPieces rest).map (bs ++ ·) := by
  induction bs with
  | nil => cases h : bytesOfPieces rest <;> simp [h]
  | cons b bs ih =>
    rw [List.map_cons, List.cons_append, bytesOfPieces, ih, Option.map_map]
    rfl

/-- The pieces of a character stand for its bytes. -/
theorem bytesOfPieces_piecesOf (c : Char) (rest : List StringPiece) :
    bytesOfPieces (piecesOf c ++ rest)
      = (bytesOfPieces rest).map (String.utf8EncodeChar c ++ ·) := by
  unfold piecesOf
  split_ifs with h
  · -- numbers below the space are no surrogates
    have hlt : c.toNat < 0x20 := by simp [isNumbered] at h; omega
    rw [List.singleton_append,
      bytesOfPieces_unit (by simp [isHighSurrogate]; omega) (by simp [isLowSurrogate]; omega),
      encodeCodePoint, Char.ofNat_toNat, Utf8.encode_eq_bytesOf]
    simp [Utf8.bytesOf]
  · exact bytesOfPieces_bytes _ rest

/-- The pieces of a string stand for its bytes. -/
theorem bytesOfPieces_flatMap_piecesOf (cs : List Char) :
    bytesOfPieces (cs.flatMap piecesOf) = some (Utf8.bytesOf cs) := by
  induction cs with
  | nil => rfl
  | cons c cs ih =>
    rw [List.flatMap_cons, bytesOfPieces_piecesOf, ih, Utf8.bytesOf_cons]
    rfl

/-- The pieces of a string mean the string. -/
theorem ofPieces_piecesOf (s : String) : ofPieces (s.toList.flatMap piecesOf) = some s := by
  rw [ofPieces, bytesOfPieces_flatMap_piecesOf, ← Utf8.encode_eq_bytesOf]
  exact Utf8.decode_encode s

end AuthGateway.Json
