import AuthGateway.Encoding.Base64
import Mathlib.Tactic.SplitIfs

/-!
# Base64 without padding is canonical

`decode url` and `encode url` are inverse to each other: every byte string reads back from its text
(`decode_encode`), and a text that reads at all is the text of what was read
(`encode_of_decode`).  A byte string therefore has exactly one spelling (`decode_eq_some_iff`).

The alphabet and the grouping are inverted apart: characters against numbers below 64
(`bits?_char`, `char_of_bits?`), and bytes against groups of six bits (`bytes?_sextets`,
`sextets_of_bytes?`).  No text holds a dot (`dot_not_mem_encode`).
-/

namespace AuthGateway.Base64

/-! ### The alphabet -/

/-- Every number below 64 reads back from its character. -/
theorem bits?_char : ∀ n < 64, url.bits? (url.char n) = some n := by
  decide

/-- No character of the alphabet is a dot. -/
theorem char_ne_dot : ∀ n < 64, url.char n ≠ '.' := by
  decide

/-- The characters that stand for six bits are ASCII. -/
theorem toNat_lt_of_bits? {c : Char} {n : Nat} (h : url.bits? c = some n) : c.toNat < 128 := by
  unfold Alphabet.bits? at h
  split_ifs at h with hupper hlower hdigit h62 h63
  · exact Nat.lt_of_le_of_lt (show c.toNat ≤ 'Z'.toNat from hupper.2) (by decide)
  · exact Nat.lt_of_le_of_lt (show c.toNat ≤ 'z'.toNat from hlower.2) (by decide)
  · exact Nat.lt_of_le_of_lt (show c.toNat ≤ '9'.toNat from hdigit.2) (by decide)
  · subst h62; decide
  · subst h63; decide

/-- Reading the alphabet backwards, over the ASCII characters. -/
private theorem char_of_bits?_ascii : ∀ k < 128,
    (url.bits? (Char.ofNat k)).all fun n => n < 64 ∧ url.char n = Char.ofNat k := by
  decide

/-- A character that stands for six bits is the character of these bits. -/
theorem char_of_bits? {c : Char} {n : Nat} (h : url.bits? c = some n) :
    n < 64 ∧ url.char n = c := by
  have hall := char_of_bits?_ascii c.toNat (toNat_lt_of_bits? h)
  rw [Char.ofNat_toNat, h] at hall
  simpa using hall

/-! ### Groups of six bits -/

/-- Groups of six bits are numbers below 64. -/
theorem lt_of_mem_sextets (s : Bytes) : ∀ n ∈ sextets s, n < 64 := by
  induction s using sextets.induct with
  | case1 a b c rest ih =>
    have ha := a.toNat_lt
    have hb := b.toNat_lt
    have hc := c.toNat_lt
    simp only [sextets, List.mem_cons]
    rintro n (rfl | rfl | rfl | rfl | h)
    · omega
    · omega
    · omega
    · omega
    · exact ih n h
  | case2 a b =>
    have ha := a.toNat_lt
    have hb := b.toNat_lt
    simp only [sextets, List.mem_cons, List.not_mem_nil, or_false]
    rintro n (rfl | rfl | rfl) <;> omega
  | case3 a =>
    have ha := a.toNat_lt
    simp only [sextets, List.mem_cons, List.not_mem_nil, or_false]
    rintro n (rfl | rfl) <;> omega
  | case4 => simp [sextets]

/-- A byte from its value. -/
private theorem toUInt8_eq {n : Nat} {a : UInt8} (h : n = a.toNat) : n.toUInt8 = a := by
  rw [h]
  exact UInt8.ofNat_toNat

/-- Bytes read back from their groups of six bits. -/
theorem bytes?_sextets (s : Bytes) : bytes? (sextets s) = some s := by
  induction s using sextets.induct with
  | case1 a b c rest ih =>
    have ha := a.toNat_lt
    have hb := b.toNat_lt
    have hc := c.toNat_lt
    simp only [sextets, bytes?, ih, Option.map_some, Option.some.injEq, List.cons.injEq, and_true]
    exact ⟨toUInt8_eq (by omega), toUInt8_eq (by omega), toUInt8_eq (by omega)⟩
  | case2 a b =>
    have ha := a.toNat_lt
    have hb := b.toNat_lt
    -- the last character has two bits to spare, and they are zero
    have hpad : b.toNat % 16 * 4 % 4 = 0 := by omega
    simp only [sextets, bytes?, hpad, ↓reduceIte, Option.some.injEq, List.cons.injEq, and_true]
    exact ⟨toUInt8_eq (by omega), toUInt8_eq (by omega)⟩
  | case3 a =>
    have ha := a.toNat_lt
    -- the last character has four bits to spare
    have hpad : a.toNat % 4 * 16 % 16 = 0 := by omega
    simp only [sextets, bytes?, hpad, ↓reduceIte, Option.some.injEq, List.cons.injEq, and_true]
    exact toUInt8_eq (by omega)
  | case4 => rfl

/-- The value of a byte made from a number that fits. -/
private theorem toNat_toUInt8 {n : Nat} (h : n < 256) : n.toUInt8.toNat = n :=
  Nat.mod_eq_of_lt h

/-- Groups of six bits that read as bytes are the groups of these bytes. -/
theorem sextets_of_bytes? {l : List Nat} {s : Bytes} (hl : ∀ n ∈ l, n < 64)
    (h : bytes? l = some s) : sextets s = l := by
  induction l using bytes?.induct generalizing s with
  | case1 a b c d rest ih =>
    obtain ⟨tail, htail, rfl⟩ := Option.map_eq_some_iff.1 h
    have ha := hl a (by simp)
    have hb := hl b (by simp)
    have hc := hl c (by simp)
    have hd := hl d (by simp)
    rw [sextets, ih (fun n hn => hl n (by simp [hn])) htail, toNat_toUInt8 (by omega),
      toNat_toUInt8 (by omega), toNat_toUInt8 (by omega)]
    simp only [List.cons.injEq, and_true]
    omega
  | case2 a b c hpad =>
    have ha := hl a (by simp)
    have hb := hl b (by simp)
    have hc := hl c (by simp)
    simp only [bytes?, hpad, ↓reduceIte, Option.some.injEq] at h
    rw [← h, sextets, toNat_toUInt8 (by omega), toNat_toUInt8 (by omega)]
    simp only [List.cons.injEq, and_true]
    omega
  -- a last group with spare bits that are set is not read
  | case3 a b c hpad => simp [bytes?, hpad] at h
  | case4 a b hpad =>
    have ha := hl a (by simp)
    have hb := hl b (by simp)
    simp only [bytes?, hpad, ↓reduceIte, Option.some.injEq] at h
    rw [← h, sextets, toNat_toUInt8 (by omega)]
    simp only [List.cons.injEq, and_true]
    omega
  | case5 a b hpad => simp [bytes?, hpad] at h
  | case6 a => simp [bytes?] at h
  | case7 =>
    obtain rfl : [] = s := Option.some.inj h
    rfl

/-! ### Texts -/

/-- Numbers below 64 read back from their characters. -/
private theorem mapM_bits?_char {l : List Nat} (hl : ∀ n ∈ l, n < 64) :
    (l.map url.char).mapM url.bits? = some l := by
  induction l with
  | nil => rfl
  | cons n l ih =>
    rw [List.map_cons, List.mapM_cons, bits?_char n (hl n List.mem_cons_self),
      ih fun m hm => hl m (List.mem_cons_of_mem n hm)]
    rfl

/-- Characters that stand for numbers are the characters of these numbers, all below 64. -/
private theorem map_char_of_mapM_bits? {s : List Char} {l : List Nat}
    (h : s.mapM url.bits? = some l) : (∀ n ∈ l, n < 64) ∧ l.map url.char = s := by
  induction s generalizing l with
  | nil =>
    obtain rfl : [] = l := Option.some.inj h
    simp
  | cons c s ih =>
    rw [List.mapM_cons] at h
    obtain ⟨n, hn, h⟩ := Option.bind_eq_some_iff.1 h
    obtain ⟨l', hl', h⟩ := Option.bind_eq_some_iff.1 h
    obtain rfl : n :: l' = l := Option.some.inj h
    obtain ⟨hlt, hc⟩ := char_of_bits? hn
    obtain ⟨hall, hs⟩ := ih hl'
    refine ⟨?_, by rw [List.map_cons, hc, hs]⟩
    rintro m (_ | ⟨_, hm⟩)
    · exact hlt
    · exact hall m hm

/-- Bytes read back from their text. -/
@[simp] theorem decode_encode (s : Bytes) : decode url (encode url s) = some s := by
  rw [decode, encode, mapM_bits?_char (lt_of_mem_sextets s)]
  exact bytes?_sextets s

/-- A text that reads as bytes is the text of these bytes. -/
theorem encode_of_decode {s : List Char} {b : Bytes} (h : decode url s = some b) :
    encode url b = s := by
  obtain ⟨l, hl, hb⟩ := Option.bind_eq_some_iff.1 h
  obtain ⟨hlt, hs⟩ := map_char_of_mapM_bits? hl
  rw [encode, sextets_of_bytes? hlt hb, hs]

/-- Bytes have exactly one spelling. -/
theorem decode_eq_some_iff {s : List Char} {b : Bytes} :
    decode url s = some b ↔ s = encode url b :=
  ⟨fun h => (encode_of_decode h).symm, fun h => h ▸ decode_encode b⟩

/-- No text holds a dot. -/
theorem dot_not_mem_encode (s : Bytes) : '.' ∉ encode url s := by
  intro h
  obtain ⟨n, hn, hdot⟩ := List.mem_map.1 h
  exact char_ne_dot n (lt_of_mem_sextets s n hn) hdot

/-- Only the empty byte string has the empty text. -/
theorem encode_ne_nil {s : Bytes} (h : s ≠ []) : encode url s ≠ [] := by
  intro hs
  have hdecode := decode_encode s
  rw [hs] at hdecode
  exact h (Option.some.inj hdecode).symm

end AuthGateway.Base64
