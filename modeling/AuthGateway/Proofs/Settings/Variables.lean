import AuthGateway.Proofs.Text.Blank
import AuthGateway.Proofs.Text.Pieces
import AuthGateway.Settings.Environment
import Mathlib.Data.List.Forall2
import Mathlib.Data.Nat.Digits.Defs

/-!
# Texts and the values they stand for

A text spells a boolean (`Environment.Spells`), writes a natural number (`Environment.Writes`) or
lists some pieces (`Environment.Lists`).  The readers find the value if there is one, and a variable
has the value of its text, or its default when it is unset (`Environment.Holds`).
-/

namespace AuthGateway.Environment

/-! ### What a text stands for -/

/-- Whether a text spells a boolean: one of three words, in any letter case and between any
blanks. -/
def Spells (text : String) (b : Bool) : Prop :=
  ∃ word, Text.IsCore Text.isBlank word text.toList
    ∧ String.ofList (word.map Char.toLower)
      ∈ if b then ["true", "1", "yes"] else ["false", "0", "no"]

/-- The number that a row of digits writes; the last digit counts ones. -/
def numeral (digits : List Char) : Nat :=
  Nat.ofDigits 10 (digits.reverse.map fun c => c.toNat - '0'.toNat)

/-- Whether a text writes a natural number of the given number of bits: digits, perhaps behind a
plus sign, between any blanks. -/
def Writes (bits : Nat) (text : String) (n : Nat) : Prop :=
  ∃ word, Text.IsCore Text.isBlank word text.toList
    ∧ ∃ digits, (word = digits ∨ word = '+' :: digits)
      ∧ digits ≠ [] ∧ (∀ c ∈ digits, c.isDigit = true) ∧ numeral digits = n ∧ n < 2 ^ bits

/-- Whether a text lists some pieces: what stands between its commas, without the blanks at the ends.
The empty text lists nothing. -/
def Lists (text : String) (pieces : List String) : Prop :=
  if text = "" then pieces = []
  else ∃ raw : List (List Char), raw ≠ [] ∧ (∀ piece ∈ raw, ',' ∉ piece)
    ∧ [','].intercalate raw = text.toList
    ∧ List.Forall₂ (fun piece word => Text.IsCore Text.isBlank word.toList piece) raw pieces

/-- Whether a variable has a value: the one its text stands for, or `default` when it is unset. -/
def Holds {α : Type} (env : Environment) (reads : String → α → Prop) (name : String)
    (default value : α) : Prop :=
  match env name with
  | none => value = default
  | some text => reads text value

/-! ### The readers find it -/

variable {env : Environment} {name : String} {bits : Nat}

theorem readBool_eq_some_iff {text : String} {b : Bool} :
    readBool text.toList = some b ↔ Spells text b := by
  unfold Spells readBool Text.lower
  rw [Text.exists_isCore_iff]
  split
  all_goals cases b <;> simp_all

/-- Horner's rule: the digits are read from the front. -/
theorem foldl_eq_numeral (s : List Char) :
    s.foldl (fun n c => 10 * n + (c.toNat - '0'.toNat)) 0 = numeral s := by
  unfold numeral
  rw [Nat.ofDigits_eq_foldr, List.foldr_map, List.foldr_reverse]
  simp only [Nat.cast_id, Nat.add_comm]

theorem readDigits_eq_some_iff {s : List Char} {n : Nat} :
    readDigits s = some n ↔ s ≠ [] ∧ (∀ c ∈ s, c.isDigit = true) ∧ numeral s = n := by
  unfold readDigits
  rw [foldl_eq_numeral, Option.ite_none_right_eq_some, List.all_eq_true, and_assoc,
    Option.some.injEq]

/-- Where no number is negative, only a plus sign may stand in front. -/
theorem readSigned_eq_some_iff {s : List Char} {i : Int} :
    readSigned 0 s = some i ↔ ∃ digits, (s = digits ∨ s = '+' :: digits)
      ∧ digits ≠ [] ∧ (∀ c ∈ digits, c.isDigit = true) ∧ (numeral digits : Int) = i := by
  have hdigits (digits : List Char) : (readDigits digits).map Int.ofNat = some i
      ↔ digits ≠ [] ∧ (∀ c ∈ digits, c.isDigit = true) ∧ (numeral digits : Int) = i := by
    simp only [Option.map_eq_some_iff, readDigits_eq_some_iff]
    constructor
    · rintro ⟨n, ⟨hne, hall, rfl⟩, rfl⟩
      exact ⟨hne, hall, rfl⟩
    · rintro ⟨hne, hall, rfl⟩
      exact ⟨_, ⟨hne, hall, rfl⟩, rfl⟩
  unfold readSigned
  split
  · -- the sign is no digit, so that the digits are what stands behind it
    rename_i digits
    rw [hdigits]
    constructor
    · intro h
      exact ⟨digits, Or.inr rfl, h⟩
    · rintro ⟨digits', rfl | hplus, h⟩
      · exact absurd (h.2.1 '+' List.mem_cons_self) (by decide)
      · rw [(List.cons.inj hplus).2]
        exact h
  · rename_i digits
    rw [if_neg (lt_irrefl 0)]
    constructor
    · intro h
      exact absurd h (by simp)
    · rintro ⟨digits', rfl | hplus, h⟩
      · exact absurd (h.2.1 '-' List.mem_cons_self) (by decide)
      · exact absurd (List.cons.inj hplus).1 (by decide)
  · rename_i hplus _
    rw [hdigits]
    constructor
    · intro h
      exact ⟨s, Or.inl rfl, h⟩
    · rintro ⟨digits, rfl | rfl, h⟩
      · exact h
      · exact absurd rfl (hplus digits)

theorem readInteger_eq_some_iff {text : String} {i : Int} :
    readInteger 0 (Int.pow 2 bits - 1) text.toList = some i
      ↔ ∃ n : Nat, Writes bits text n ∧ (n : Int) = i := by
  have hpow : Int.pow 2 bits = ((2 ^ bits : Nat) : Int) := by
    rw [Nat.cast_pow]
    rfl
  unfold readInteger Writes
  simp only [Text.exists_isCore_iff]
  rw [Option.filter_eq_some_iff, readSigned_eq_some_iff, hpow, decide_eq_true_eq]
  constructor
  · rintro ⟨⟨digits, htext, hne, hall, rfl⟩, -, hlt⟩
    exact ⟨numeral digits, ⟨digits, htext, hne, hall, rfl, by omega⟩, rfl⟩
  · rintro ⟨n, ⟨digits, htext, hne, hall, rfl, hlt⟩, rfl⟩
    exact ⟨⟨digits, htext, hne, hall, rfl⟩, by omega, by omega⟩

theorem readList_eq_iff {text : String} {pieces : List String} :
    (readList text.toList).map String.ofList = pieces ↔ Lists text pieces := by
  have hcores (raw : List (List Char)) : raw.map (String.ofList ∘ Text.trim) = pieces
      ↔ List.Forall₂ (fun piece word => Text.IsCore Text.isBlank word.toList piece) raw pieces := by
    have hcore (piece : List Char) (word : String) : (String.ofList ∘ Text.trim) piece = word
        ↔ Text.IsCore Text.isBlank word.toList piece := by
      rw [← Text.trim_eq_iff, Function.comp_apply, ← String.toList_inj, String.toList_ofList]
    simp only [← hcore, ← List.forall₂_map_left_iff, List.forall₂_eq_eq_eq]
  unfold readList Lists
  by_cases htext : text = ""
  · rw [htext, if_pos rfl, if_pos String.toList_empty]
    exact eq_comm
  · rw [if_neg htext, if_neg (fun hnil => htext (String.toList_eq_nil_iff.1 hnil)), List.map_map]
    constructor
    · intro hpieces
      obtain ⟨hne, hfree, hwhole⟩ := Text.splitOn_eq_iff.1 (Eq.refl (text.toList.splitOn ','))
      exact ⟨_, hne, hfree, hwhole, (hcores _).1 hpieces⟩
    · rintro ⟨raw, hne, hfree, hwhole, hpieces⟩
      rw [Text.splitOn_eq_iff.2 ⟨hne, hfree, hwhole⟩]
      exact (hcores raw).2 hpieces

/-! ### What a variable has -/

theorem boolOr_eq_ok_iff {default b : Bool} :
    env.boolOr name default = .ok b ↔ env.Holds Spells name default b := by
  unfold boolOr Holds
  cases env name with
  | none => rw [Except.ok.injEq, eq_comm]
  | some text =>
    dsimp only
    rw [← readBool_eq_some_iff]
    cases readBool text.toList with
    | none => simp
    | some b' => simp

/-- Only a text that is there is refused, and it is quoted as it stands. -/
theorem exists_of_boolOr_eq_error {default : Bool} {e : VariableError}
    (h : env.boolOr name default = .error e) :
    ∃ text, env name = some text ∧ e = .invalidBool name text := by
  unfold boolOr at h
  split at h
  · exact absurd h (by simp)
  · rename_i text htext
    split at h
    · exact absurd h (by simp)
    · exact ⟨text, htext, (Except.error.inj h).symm⟩

theorem wordOr_eq_ok_iff {default n : Nat} :
    env.wordOr bits name default = .ok n ↔ env.Holds (Writes bits) name default n := by
  unfold wordOr integerOr Holds
  cases env name with
  | none => simp [Except.map, eq_comm]
  | some text =>
    dsimp only
    cases h : readInteger 0 (Int.pow 2 bits - 1) text.toList with
    | none =>
      have hnone : ¬ Writes bits text n := fun hn => by
        rw [readInteger_eq_some_iff.2 ⟨n, hn, rfl⟩] at h
        exact absurd h (by simp)
      simp [Except.map, hnone]
    | some i =>
      obtain ⟨m, hm, rfl⟩ := readInteger_eq_some_iff.1 h
      constructor
      · intro heq
        rw [← Except.ok.inj heq]
        exact hm
      · intro hn
        have hread := readInteger_eq_some_iff.2 ⟨n, hn, rfl⟩
        rw [Option.some.inj (h.symm.trans hread)]
        rfl

/-- Only a text that is there is refused, and it is quoted as it stands. -/
theorem exists_of_wordOr_eq_error {default : Nat} {e : VariableError}
    (h : env.wordOr bits name default = .error e) :
    ∃ text, env name = some text ∧ e = .invalidInteger name text := by
  unfold wordOr integerOr at h
  split at h
  · exact absurd h (by simp [Except.map])
  · rename_i text htext
    split at h
    · exact absurd h (by simp [Except.map])
    · exact ⟨text, htext, (Except.error.inj h).symm⟩

theorem stringOr_eq_getD (default : String) : env.stringOr name default = (env name).getD default :=
  rfl

theorem listOr_eq_iff {default pieces : List String} :
    env.listOr name default = pieces ↔ env.Holds Lists name default pieces := by
  unfold listOr Holds
  cases env name with
  | none => exact eq_comm
  | some text => exact readList_eq_iff

end AuthGateway.Environment
