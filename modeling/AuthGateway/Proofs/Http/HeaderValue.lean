import AuthGateway.Admission.Rejection
import AuthGateway.Proofs.Encoding.Utf8
import AuthGateway.Settings.Load

/-!
# Texts that may stand in a message

A value is refused for its bytes: those below the space, other than the tab, and the delete byte
(`Header.isValue_iff_bytes`).  In UTF-8 they only come from the characters with these numbers, which
are all control characters.  So a URL without control characters may stand in a message as it is,
and inside the quotes of a challenge (`Settings.isValue_of_isPlainUrl`,
`Settings.isValue_challengeFor`).

Not every value reads as text: all of its bytes must be printable ASCII or tabs
(`Header.text?_eq_some_iff`), and then they are its characters.
-/

namespace AuthGateway

/-! ### Bytes of values -/

/-- Whether a byte may stand in a value. -/
def Header.IsValueByte (b : UInt8) : Prop :=
  b.toNat = 0x09 ∨ (0x20 ≤ b.toNat ∧ b.toNat ≠ 0x7F)

/-- Whether a character may stand in a value. -/
def Header.isValueChar (c : Char) : Bool :=
  c = '\t' || (0x20 ≤ c.toNat && c.toNat ≠ 0x7F)

namespace Header

theorem isValue_eq_all (s : String) : isValue s = s.toList.all isValueChar :=
  rfl

/-- An ASCII character may stand in a value when its byte may, and every other character may. -/
theorem isValueChar_iff_bytes (c : Char) :
    isValueChar c = true ↔ ∀ b ∈ String.utf8EncodeChar c, IsValueByte b := by
  have htab : c = '\t' ↔ c.toNat = 0x09 := by
    constructor
    · rintro rfl
      rfl
    · intro h
      exact Char.toNat_inj.1 h
  by_cases hascii : c.toNat < 128
  · have hbyte : c.toNat.toUInt8.toNat = c.toNat := by
      rw [Nat.toUInt8_eq, UInt8.toNat_ofNat']
      omega
    rw [Utf8.utf8EncodeChar_ascii hascii]
    simp [isValueChar, IsValueByte, htab, hbyte]
  · have hbytes := Utf8.le_of_mem_utf8EncodeChar (Nat.le_of_not_lt hascii)
    constructor
    · intro _ b hb
      have hb' := hbytes b hb
      exact Or.inr ⟨by omega, by omega⟩
    · intro _
      simp only [isValueChar, Bool.or_eq_true, Bool.and_eq_true, decide_eq_true_eq]
      exact Or.inr ⟨by omega, by omega⟩

/-- A text may be a value exactly when none of its bytes is a control byte other than the tab. -/
theorem isValue_iff_bytes (s : String) :
    isValue s = true ↔ ∀ b ∈ Utf8.encode s, IsValueByte b := by
  rw [isValue_eq_all, Utf8.encode_eq_bytesOf, List.all_eq_true]
  constructor
  · intro h b hb
    obtain ⟨c, hc, hb⟩ := List.mem_flatMap.1 hb
    exact (isValueChar_iff_bytes c).1 (h c hc) b hb
  · intro h c hc
    refine (isValueChar_iff_bytes c).2 fun b hb => ?_
    exact h b (List.mem_flatMap.2 ⟨c, hc, hb⟩)

end Header

/-! ### Values that read as text -/

/-- Whether a byte is a tab or printable ASCII. -/
def Header.IsTextByte (b : UInt8) : Prop :=
  b.toNat = 0x09 ∨ (0x20 ≤ b.toNat ∧ b.toNat ≤ 0x7E)

/-- Whether a value reads as text: its bytes are tabs and printable ASCII. -/
def Header.IsReadable (value : String) : Prop :=
  ∀ b ∈ Utf8.encode value, IsTextByte b

namespace Header

instance (b : UInt8) : Decidable (IsTextByte b) :=
  inferInstanceAs (Decidable (_ ∨ _))

instance (value : String) : Decidable (IsReadable value) :=
  List.decidableBAll _ (Utf8.encode value)

/-- A character reads as text when its bytes do, which all lie above ASCII where it does. -/
theorem isHeaderText_iff_bytes (c : Char) :
    Text.isHeaderText c = true ↔ ∀ b ∈ String.utf8EncodeChar c, IsTextByte b := by
  have htab : c = '\t' ↔ c.toNat = 0x09 := Char.toNat_inj.symm
  by_cases hascii : c.toNat < 128
  · have hbyte : c.toNat.toUInt8.toNat = c.toNat := by
      rw [Nat.toUInt8_eq, UInt8.toNat_ofNat']
      omega
    rw [Utf8.utf8EncodeChar_ascii hascii]
    simp [Text.isHeaderText, IsTextByte, htab, hbyte]
  · have hbytes := Utf8.le_of_mem_utf8EncodeChar (Nat.le_of_not_lt hascii)
    constructor
    · intro h
      simp only [Text.isHeaderText, Bool.or_eq_true, beq_iff_eq, htab, Bool.and_eq_true,
        decide_eq_true_eq] at h
      omega
    · intro h
      obtain ⟨b, hb⟩ := List.exists_mem_of_ne_nil _ (String.utf8EncodeChar_ne_nil (c := c))
      have hlow := hbytes b hb
      have htext := h b hb
      unfold IsTextByte at htext
      omega

/-- A value reads as text when all its characters do. -/
theorem isReadable_iff (value : String) :
    IsReadable value ↔ ∀ c ∈ value.toList, Text.isHeaderText c = true := by
  unfold IsReadable
  rw [Utf8.encode_eq_bytesOf]
  constructor
  · intro h c hc
    exact (isHeaderText_iff_bytes c).2 fun b hb => h b (List.mem_flatMap.2 ⟨c, hc, hb⟩)
  · intro h b hb
    obtain ⟨c, hc, hb⟩ := List.mem_flatMap.1 hb
    exact (isHeaderText_iff_bytes c).1 (h c hc) b hb

theorem text?_eq_some_iff {value : String} {text : List Char} :
    text? value = some text ↔ IsReadable value ∧ value.toList = text := by
  rw [isReadable_iff, text?, ← List.all_eq_true]
  cases value.toList.all Text.isHeaderText <;> simp

theorem text?_eq_none_iff {value : String} : text? value = none ↔ ¬ IsReadable value := by
  rw [isReadable_iff, text?, ← List.all_eq_true]
  cases value.toList.all Text.isHeaderText <;> simp

end Header

/-! ### URLs that settings name -/

namespace Settings

variable {url : String}

/-- A character that is no control character may stand in a value. -/
theorem isValueChar_of_not_isControl {c : Char} (h : Text.isControl c = false) :
    Header.isValueChar c = true := by
  simp only [Text.isControl, Bool.or_eq_false_iff, Bool.and_eq_false_iff, decide_eq_false_iff_not]
    at h
  simp only [Header.isValueChar, Bool.or_eq_true, Bool.and_eq_true, decide_eq_true_eq]
  exact Or.inr ⟨by omega, by omega⟩

theorem isValue_of_isPlainUrl (h : isPlainUrl url = true) : Header.isValue url = true := by
  rw [Header.isValue_eq_all, List.all_eq_true]
  intro c hc
  have hplain := List.all_eq_true.1 h c hc
  simp only [Bool.and_eq_true, Bool.not_eq_true'] at hplain
  exact isValueChar_of_not_isControl hplain.1

/-- What stands around the URL in a challenge may stand there as well. -/
theorem isValue_challengeFor (h : isPlainUrl url = true) :
    Header.isValue (Responder.challengeFor url) = true := by
  have hurl := isValue_of_isPlainUrl h
  rw [Header.isValue_eq_all] at hurl
  rw [Header.isValue_eq_all, Responder.challengeFor, String.toList_append, String.toList_append,
    List.all_append, List.all_append, hurl]
  decide

end Settings

end AuthGateway
