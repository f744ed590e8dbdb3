import AuthGateway.Json.Printer
import AuthGateway.Json.Reader
import AuthGateway.Proofs.Encoding.Utf8
import Mathlib.Algebra.Group.Int.Defs
import Mathlib.Algebra.Group.Nat.Defs
import Mathlib.Tactic.SplitIfs

/-!
# Integers in JSON texts

An integer of up to 64 bits reads back from its decimal text.  Reading has two halves: the bytes of
the text read as its digits (`readNumber_printInt`), wherever the text is followed by something
that ends a value, and the digits mean the integer (`ofLiteral_literalOf`).
-/

namespace AuthGateway.Json

/-! ### Decimal digits -/

/-- The digits of a number, the most significant first. -/
def digitsOf (n : Nat) : List Nat :=
  (Nat.toDigits 10 n).map fun c => c.toNat - '0'.toNat

/-- A digit is read off its character. -/
private theorem toNat_digitChar_sub : ∀ d < 10, (Nat.digitChar d).toNat - '0'.toNat = d := by
  decide

/-- The last digit stands behind the digits of a tenth of the number. -/
theorem digitsOf_eq (n : Nat) :
    digitsOf n = if n < 10 then [n] else digitsOf (n / 10) ++ [n % 10] := by
  unfold digitsOf
  rw [Nat.toDigits_eq_if (by decide)]
  split_ifs with h
  · rw [List.map_singleton, toNat_digitChar_sub n h]
  · rw [List.map_append, List.map_singleton, toNat_digitChar_sub (n % 10) (by omega)]

/-- Digits are below ten. -/
theorem lt_of_mem_digitsOf (n : Nat) : ∀ d ∈ digitsOf n, d < 10 := by
  induction n using Nat.strongRecOn with
  | ind n ih =>
    rw [digitsOf_eq]
    split_ifs with h
    · simpa using h
    · intro d hd
      rcases List.mem_append.1 hd with hd | hd
      · exact ih (n / 10) (by omega) d hd
      · rw [List.mem_singleton.1 hd]
        omega

/-- There is at least one digit, and no zero stands before others. -/
theorem digitsOf_head (n : Nat) : ∃ d ds, digitsOf n = d :: ds ∧ (d = 0 → n = 0 ∧ ds = []) := by
  induction n using Nat.strongRecOn with
  | ind n ih =>
    rw [digitsOf_eq]
    split_ifs with h
    · exact ⟨n, [], rfl, fun hn => ⟨hn, rfl⟩⟩
    · -- a number of ten or more has a tenth that is not zero, and so has its first digit
      obtain ⟨d, ds, hds, hzero⟩ := ih (n / 10) (by omega)
      refine ⟨d, ds ++ [n % 10], by rw [hds]; rfl, fun hd => ?_⟩
      have := (hzero hd).1
      omega

/-- Digits are taken up one by one for as long as they fit. -/
theorem takeDigits_append {m n : Nat} {ds : List Nat} (h : takeDigits m ds = (n, []))
    (rest : List Nat) : takeDigits m (ds ++ rest) = takeDigits n rest := by
  induction ds generalizing m with
  | nil =>
    obtain rfl : m = n := congrArg Prod.fst h
    rfl
  | cons d ds ih =>
    rw [takeDigits] at h
    rw [List.cons_append, takeDigits]
    split_ifs at h ⊢ with hfits
    · exact ih h
    · exact absurd (congrArg Prod.snd h) (by simp)

/-- The digits of a number of 64 bits are all taken up, and make the number. -/
theorem takeDigits_digitsOf {n : Nat} (h : n < UInt64.size) :
    takeDigits 0 (digitsOf n) = (n, []) := by
  induction n using Nat.strongRecOn with
  | ind n ih =>
    rw [digitsOf_eq]
    split_ifs with hn
    · rw [takeDigits, if_pos (by omega), takeDigits]
      congr 1
      omega
    · rw [takeDigits_append (ih (n / 10) (by omega) (by omega)), takeDigits, if_pos (by omega),
        takeDigits]
      congr 1
      omega

/-! ### Literals -/

/-- The literal of an integer. -/
def literalOf (n : Int) : NumberLiteral :=
  ⟨decide (n < 0), digitsOf n.natAbs, none, none⟩

/-- A literal of 64 bits, signed or unsigned, means its integer. -/
theorem ofLiteral_literalOf {n : Int} (hlo : -2 ^ 63 ≤ n) (hhi : n < 2 ^ 64) :
    ofLiteral (literalOf n) = some (.integer n) := by
  have hword : n.natAbs < UInt64.size := by
    rw [UInt64.size]
    omega
  have hdigits : takeDigits 0 (digitsOf n.natAbs) = (n.natAbs, []) := takeDigits_digitsOf hword
  rw [ofLiteral, literalOf]
  simp only [hdigits]
  by_cases hn : n < 0
  · have hrange : 0 < n.natAbs ∧ n.natAbs ≤ 0x8000000000000000 := by omega
    simp only [hn, decide_true, Bool.not_true, Bool.false_eq_true, ↓reduceIte, hrange, and_self]
    rw [show -(n.natAbs : Int) = n by omega]
  · simp only [hn, decide_false, Bool.not_false, ↓reduceIte]
    rw [show (n.natAbs : Int) = n by omega]

/-! ### Bytes -/

/-- Whether bytes behind a value end it: there are none, or the first is a comma or closes a
container. -/
def EndsValue : Bytes → Prop
  | [] => True
  | b :: _ => b = 0x2C ∨ b = 0x5D ∨ b = 0x7D

/-- The byte of a digit. -/
def digitByte (d : Nat) : UInt8 :=
  (48 + d).toUInt8

/-- A digit reads back from its byte. -/
theorem digit?_digitByte : ∀ d < 10, Raw.digit? (digitByte d) = some d := by
  decide

/-- No digit is a minus sign. -/
private theorem digitByte_ne_minus : ∀ d < 10, digitByte d ≠ 0x2D := by
  decide

/-- The character of a digit has the byte of the digit. -/
private theorem utf8EncodeChar_digitChar : ∀ d < 10,
    String.utf8EncodeChar (Nat.digitChar d) = [digitByte d] := by
  decide

/-- The decimal text of a number, in bytes. -/
theorem bytesOf_toDigits (n : Nat) :
    Utf8.bytesOf (Nat.toDigits 10 n) = (digitsOf n).map digitByte := by
  induction n using Nat.strongRecOn with
  | ind n ih =>
    rw [Nat.toDigits_eq_if (by decide), digitsOf_eq]
    split_ifs with h
    · rw [Utf8.bytesOf_cons, utf8EncodeChar_digitChar n h]
      rfl
    · rw [Utf8.bytesOf_append, ih (n / 10) (by omega), List.map_append, Utf8.bytesOf_cons,
        utf8EncodeChar_digitChar (n % 10) (by omega)]
      rfl

namespace Raw

/-- A run of digits is read up to where something ends the value. -/
theorem digits_append {ds : List Nat} (hds : ∀ d ∈ ds, d < 10) {rest : Bytes}
    (hrest : EndsValue rest) : digits (ds.map digitByte ++ rest) = (ds, rest) := by
  induction ds with
  | nil =>
    cases rest with
    | nil => rfl
    | cons b s =>
      rw [List.map_nil, List.nil_append, digits]
      rcases hrest with rfl | rfl | rfl <;> rfl
  | cons d ds ih =>
    rw [List.map_cons, List.cons_append, digits, digit?_digitByte d (hds d List.mem_cons_self)]
    simp only [ih fun m hm => hds m (List.mem_cons_of_mem d hm)]

/-- The digits of a number are read as its whole part. -/
theorem wholePart_digitsOf (n : Nat) {rest : Bytes} (hrest : EndsValue rest) :
    wholePart ((digitsOf n).map digitByte ++ rest) = some (digitsOf n, rest) := by
  have hread := digits_append (lt_of_mem_digitsOf n) hrest
  obtain ⟨d, ds, hds, hzero⟩ := digitsOf_head n
  rw [hds] at hread ⊢
  rw [wholePart, someDigits, hread]
  cases d with
  | zero =>
    -- a whole part that begins with zero has to end there
    rw [(hzero rfl).2]
    rfl
  | succ d => rfl

/-- There is no fraction where something ends the value. -/
theorem fractionPart_of_ends {rest : Bytes} (h : EndsValue rest) :
    fractionPart rest = some (none, rest) := by
  cases rest with
  | nil => rfl
  | cons b s => rcases h with rfl | rfl | rfl <;> rfl

/-- There is no exponent where something ends the value. -/
theorem exponentPart_of_ends {rest : Bytes} (h : EndsValue rest) :
    exponentPart rest = some (none, rest) := by
  cases rest with
  | nil => rfl
  | cons b s => rcases h with rfl | rfl | rfl <;> rfl

/-- What is read of a number behind its sign. -/
def readMagnitude (negative : Bool) (s : Bytes) : Option (NumberLiteral × Bytes) := do
  let (whole, s) ← wholePart s
  let (fraction, s) ← fractionPart s
  let (exponent, s) ← exponentPart s
  return (⟨negative, whole, fraction, exponent⟩, s)

theorem readNumber_minus (s : Bytes) : readNumber (0x2D :: s) = readMagnitude true s :=
  rfl

theorem readNumber_of_ne_minus {b : UInt8} (h : b ≠ 0x2D) (s : Bytes) :
    readNumber (b :: s) = readMagnitude false (b :: s) := by
  unfold readNumber
  split
  · rename_i heq
    split at heq
    · rename_i hminus
      exact absurd (List.cons.inj hminus).1 h
    · obtain ⟨rfl, rfl⟩ := Prod.mk.inj heq
      rfl

/-- The digits of a number are read as its magnitude. -/
theorem readMagnitude_digitsOf (negative : Bool) (n : Nat) {rest : Bytes}
    (hrest : EndsValue rest) :
    readMagnitude negative ((digitsOf n).map digitByte ++ rest)
      = some (⟨negative, digitsOf n, none, none⟩, rest) := by
  rw [readMagnitude, wholePart_digitsOf n hrest]
  simp only [Option.bind_eq_bind, Option.bind_some, fractionPart_of_ends hrest,
    exponentPart_of_ends hrest]
  rfl

/-- The text of an integer is read as its literal. -/
theorem readNumber_printInt (n : Int) {rest : Bytes} (hrest : EndsValue rest) :
    readNumber (Utf8.bytesOf (printInt n) ++ rest) = some (literalOf n, rest) := by
  rw [printInt, literalOf]
  split_ifs with hn
  · rw [Utf8.bytesOf_cons_ascii (by decide), bytesOf_toDigits, decide_eq_true hn]
    exact (readNumber_minus _).trans (readMagnitude_digitsOf true n.natAbs hrest)
  · -- no digit is taken for a sign
    rw [bytesOf_toDigits, decide_eq_false hn, ← readMagnitude_digitsOf false n.natAbs hrest]
    obtain ⟨d, ds, hds, -⟩ := digitsOf_head n.natAbs
    have hd : d < 10 := lt_of_mem_digitsOf n.natAbs d (by rw [hds]; exact List.mem_cons_self)
    rw [hds]
    exact readNumber_of_ne_minus (digitByte_ne_minus d hd) _

end Raw

end AuthGateway.Json
