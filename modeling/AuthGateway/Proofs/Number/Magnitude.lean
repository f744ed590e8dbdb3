import AuthGateway.Json.Value
import Mathlib.Algebra.Order.Field.Rat
import Mathlib.Tactic.Linarith

/-!
# Floating point numbers as rational numbers

`Binary64.toRat` is the number that a float stands for, and `Json.Number.toRat` the one that a JSON
number stands for.  The tests and the rounding of `Binary64` are made on its numerator and its
denominator; here they become statements about the number.  It is not negative exactly when its sign
is plus or it is one of the zeros (`toRat_nonneg_iff`), and then rounding moves it by half a unit at
most (`roundHalfUp_le_toRat`, `toRat_lt_roundHalfUp`).
-/

namespace AuthGateway

namespace Binary64

/-- The rational number that a float stands for. -/
def toRat (x : Binary64) : ℚ :=
  x.signedNumerator / x.denominator

theorem denominator_pos (x : Binary64) : 0 < x.denominator :=
  Nat.pow_pos (by decide)

theorem denominator_cast_pos (x : Binary64) : (0 : ℚ) < x.denominator := by
  exact_mod_cast x.denominator_pos

/-- A magnitude is zero when its significand is. -/
theorem numerator_eq_zero_iff {x : Binary64} : x.numerator = 0 ↔ x.isZero = true := by
  have hpow : Nat.pow 2 x.exponent.toNat ≠ 0 := (Nat.pow_pos (by decide)).ne'
  unfold numerator isZero
  rw [Nat.mul_eq_zero, beq_iff_eq]
  constructor
  · intro h
    exact h.resolve_right hpow
  · exact Or.inl

/-- A float is not negative when its sign is plus or it is zero. -/
theorem toRat_nonneg_iff {x : Binary64} : 0 ≤ x.toRat ↔ (!x.negative || x.isZero) = true := by
  have hsign : 0 ≤ x.toRat ↔ 0 ≤ x.signedNumerator := by
    unfold toRat
    rw [le_div_iff₀ x.denominator_cast_pos, zero_mul]
    exact_mod_cast Iff.rfl
  rw [hsign, Bool.or_eq_true, Bool.not_eq_true', ← numerator_eq_zero_iff]
  unfold signedNumerator
  cases x.negative with
  | false => simp
  | true =>
    simp only [↓reduceIte, Bool.true_eq_false, false_or]
    omega

/-- A float that is not negative is its magnitude. -/
theorem toRat_of_nonneg {x : Binary64} (h : 0 ≤ x.toRat) :
    x.toRat = x.numerator / x.denominator := by
  have hsign : x.signedNumerator = x.numerator := by
    rw [toRat_nonneg_iff, Bool.or_eq_true, Bool.not_eq_true', ← numerator_eq_zero_iff] at h
    unfold signedNumerator
    rcases h with h | h
    · rw [h]
      rfl
    · rw [h]
      simp
  unfold toRat
  rw [hsign, Int.cast_natCast]

/-- A float that is not negative lies below a bound when its numerator does. -/
theorem toRat_lt_iff {x : Binary64} (h : 0 ≤ x.toRat) (bound : Nat) :
    x.toRat < bound ↔ x.numerator < bound * x.denominator := by
  rw [toRat_of_nonneg h, div_lt_iff₀ x.denominator_cast_pos]
  exact_mod_cast Iff.rfl

/-! ### Rounding -/

/-- Rounding goes up by half a unit at most. -/
theorem roundHalfUp_le_toRat {x : Binary64} (h : 0 ≤ x.toRat) :
    (x.roundHalfUp : ℚ) ≤ x.toRat + 1 / 2 := by
  have hpos := x.denominator_cast_pos
  have hmul : x.roundHalfUp * (2 * x.denominator) ≤ 2 * x.numerator + x.denominator :=
    Nat.div_mul_le_self _ _
  have hmul' : (x.roundHalfUp : ℚ) * (2 * x.denominator) ≤ 2 * x.numerator + x.denominator := by
    exact_mod_cast hmul
  rw [toRat_of_nonneg h, ← sub_le_iff_le_add, le_div_iff₀ hpos]
  linarith

/-- Rounding goes down by less than half a unit. -/
theorem toRat_lt_roundHalfUp {x : Binary64} (h : 0 ≤ x.toRat) :
    x.toRat < (x.roundHalfUp : ℚ) + 1 / 2 := by
  have hpos := x.denominator_cast_pos
  have hmul : 2 * x.numerator + x.denominator < (x.roundHalfUp + 1) * (2 * x.denominator) := by
    have hden : 0 < 2 * x.denominator := by
      have := x.denominator_pos
      omega
    rw [Nat.add_mul, Nat.one_mul]
    exact Nat.lt_div_mul_add hden
  have hmul' : 2 * (x.numerator : ℚ) + x.denominator
      < (x.roundHalfUp + 1) * (2 * x.denominator) := by
    exact_mod_cast hmul
  rw [toRat_of_nonneg h, div_lt_iff₀ hpos]
  linarith

end Binary64

/-- The rational number that a JSON number stands for. -/
def Json.Number.toRat : Json.Number → ℚ
  | .integer n => n
  | .float x => x.toRat

end AuthGateway
