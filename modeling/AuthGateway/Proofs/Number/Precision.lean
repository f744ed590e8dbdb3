import AuthGateway.Json.Reader
import AuthGateway.Proofs.Number.Magnitude

/-!
# The precision of floating point numbers

Rounding a quotient gives a significand of 53 bits (`isPrecise_of_ofRatio`), since the exponent it is
written with leaves no more than that before the binary point (`fits_exponentFor`).  All operations
end with this rounding, so a number of the format that is not whole is small, and a number below
`2 ^ 64` does not reach it when it is rounded to a whole one (`roundHalfUp_lt`).
-/

namespace AuthGateway.Binary64

variable {num den : Nat} {e e' : Int} {x y : Binary64} {negative : Bool}

/-! ### The exponent of a quotient -/

/-- Whether a quotient has at most 53 bits before the binary point when it is written with an
exponent. -/
def Fits (num den : Nat) (e : Int) : Prop :=
  num * 2 ^ (-e).toNat < 2 ^ 53 * (den * 2 ^ e.toNat)

/-- A greater exponent leaves fewer bits before the point. -/
theorem Fits.mono (h : Fits num den e) (he : e ≤ e') : Fits num den e' := by
  unfold Fits at *
  have hnum : num * 2 ^ (-e').toNat ≤ num * 2 ^ (-e).toNat :=
    Nat.mul_le_mul_left num (Nat.pow_le_pow_right (by decide) (by omega))
  have hden : den * 2 ^ e.toNat ≤ den * 2 ^ e'.toNat :=
    Nat.mul_le_mul_left den (Nat.pow_le_pow_right (by decide) (by omega))
  have hscaled := Nat.mul_le_mul_left (2 ^ 53) hden
  omega

/-- The lengths of numerator and denominator tell the exponent up to one. -/
theorem fits_log2 (hden : 0 < den) : Fits num den ((num.log2 : Int) - den.log2 - 52) := by
  unfold Fits
  have hnum : num < 2 ^ (num.log2 + 1) := Nat.lt_log2_self
  have hden' : 2 ^ den.log2 ≤ den := Nat.log2_self_le (Nat.ne_of_gt hden)
  generalize num.log2 = a at *
  generalize den.log2 = b at *
  have hexponents : a + 1 + (-((a : Int) - b - 52)).toNat = 53 + b + ((a : Int) - b - 52).toNat := by
    omega
  calc num * 2 ^ (-((a : Int) - b - 52)).toNat
      < 2 ^ (a + 1) * 2 ^ (-((a : Int) - b - 52)).toNat :=
        Nat.mul_lt_mul_of_pos_right hnum (Nat.two_pow_pos _)
    _ = 2 ^ 53 * (2 ^ b * 2 ^ ((a : Int) - b - 52).toNat) := by
        rw [← Nat.pow_add, hexponents, Nat.pow_add, Nat.pow_add, Nat.mul_assoc]
    _ ≤ 2 ^ 53 * (den * 2 ^ ((a : Int) - b - 52).toNat) :=
        Nat.mul_le_mul_left _ (Nat.mul_le_mul_right _ hden')

/-- Where a bit is left, the exponent may be smaller by one. -/
theorem fits_sub_one (h : num * 2 ^ (-e).toNat < 2 ^ 52 * (den * 2 ^ e.toNat)) :
    Fits num den (e - 1) := by
  unfold Fits
  rcases lt_or_ge 0 e with he | he
  · obtain ⟨k, rfl⟩ : ∃ k : Nat, e = k + 1 := ⟨(e - 1).toNat, by omega⟩
    have hneg : (-((k : Int) + 1)).toNat = 0 := by omega
    have hneg' : (-((k : Int) + 1 - 1)).toNat = 0 := by omega
    have hpos : ((k : Int) + 1).toNat = k + 1 := by omega
    have hpos' : ((k : Int) + 1 - 1).toNat = k := by omega
    have hpow : den * 2 ^ (k + 1) = 2 * (den * 2 ^ k) := by
      rw [Nat.pow_succ, Nat.mul_comm 2, Nat.mul_assoc]
    rw [hneg, hpos, hpow] at h
    rw [hneg', hpos']
    omega
  · have hneg : (-(e - 1)).toNat = (-e).toNat + 1 := by omega
    have hpos : e.toNat = 0 := by omega
    have hpos' : (e - 1).toNat = 0 := by omega
    have hpow : num * 2 ^ ((-e).toNat + 1) = 2 * (num * 2 ^ (-e).toNat) := by
      rw [Nat.pow_succ, Nat.mul_comm 2, Nat.mul_assoc]
    rw [hpos] at h
    rw [hneg, hpos', hpow]
    omega

/-- The exponent that a quotient is written with leaves at most 53 bits before the point. -/
theorem fits_exponentFor (hden : 0 < den) : Fits num den (exponentFor num den) := by
  have hguess : Fits num den ((num.log2 : Int) - den.log2 - 52) := fits_log2 hden
  unfold exponentFor scaled
  dsimp only
  generalize (num.log2 : Int) - den.log2 - 52 = guess at *
  -- the guess is one too great where it leaves 52 bits only, and then the exponent below fits too
  split_ifs with hbit
  · refine (fits_sub_one ?_).mono (le_max_right _ _)
    have hpos : 0 < den * Nat.pow 2 guess.toNat :=
      Nat.mul_pos hden (Nat.pow_pos (by decide))
    exact (Nat.div_lt_iff_lt_mul hpos).1 hbit
  · exact hguess.mono (le_max_right _ _)

/-! ### Numbers of the format -/

/-- Whether a significand has at most 53 bits. -/
def IsPrecise (x : Binary64) : Prop :=
  x.significand < 2 ^ 53

theorem isPrecise_zero (negative : Bool) : (zero negative).IsPrecise :=
  Nat.two_pow_pos 53

theorem IsPrecise.neg (h : x.IsPrecise) : x.neg.IsPrecise :=
  h

/-- Rounding a quotient below a whole number stays at it or below. -/
theorem roundQuotient_le {bound : Nat} (h : num < bound * den) : roundQuotient num den ≤ bound := by
  have hdiv : num / den < bound := Nat.div_lt_of_lt_mul (by rw [Nat.mul_comm]; exact h)
  unfold roundQuotient
  dsimp only
  split_ifs
  · exact hdiv
  · exact hdiv.le

/-- Division by zero has the quotient zero, rounded to one at most. -/
theorem roundQuotient_zero_le (num : Nat) : roundQuotient num 0 ≤ 1 := by
  unfold roundQuotient
  dsimp only
  rw [Nat.div_zero]
  split
  · exact le_rfl
  · exact Nat.zero_le 1

/-- A rounded quotient has a significand of 53 bits. -/
theorem isPrecise_of_ofRatio (h : ofRatio negative num den = some x) : x.IsPrecise := by
  have hle : roundQuotient (scaled num den (exponentFor num den)).1
      (scaled num den (exponentFor num den)).2 ≤ 2 ^ 53 := by
    rcases Nat.eq_zero_or_pos den with rfl | hden
    · unfold scaled
      rw [Nat.zero_mul]
      exact (roundQuotient_zero_le _).trans (by decide)
    · exact roundQuotient_le (fits_exponentFor hden)
  unfold ofRatio at h
  dsimp only at h
  split_ifs at h with hzero hfull hfar hfar
  · rw [← Option.some.inj h]
    exact isPrecise_zero negative
  · rw [← Option.some.inj h]
    exact (by decide : 2 ^ 52 < 2 ^ 53)
  · rw [← Option.some.inj h]
    exact lt_of_le_of_ne hle hfull

theorem isPrecise_ofNat (n : Nat) : (ofNat n).IsPrecise := by
  unfold ofNat
  cases h : ofRatio false n 1 with
  | none => exact isPrecise_zero false
  | some x => exact isPrecise_of_ofRatio h

theorem isPrecise_of_mul {z : Binary64} (h : x.mul y = some z) : z.IsPrecise :=
  isPrecise_of_ofRatio h

theorem isPrecise_of_div {z : Binary64} (h : x.div y = some z) : z.IsPrecise :=
  isPrecise_of_ofRatio h

/-! ### Whole numbers -/

/-- A number of the format below `2 ^ 64` does not reach it when it is rounded. -/
theorem roundHalfUp_lt (hx : x.IsPrecise) (h : x.numerator < UInt64.size * x.denominator) :
    x.roundHalfUp < UInt64.size := by
  have hden := x.denominator_pos
  have hroom : 2 * x.numerator + x.denominator < UInt64.size * (2 * x.denominator) := by
    rcases lt_or_ge x.exponent 0 with hneg | hnonneg
    · -- a number that is not whole is smaller by far
      have hexponent : x.exponent.toNat = 0 := by omega
      have hnumerator : x.numerator = x.significand := by
        unfold numerator
        rw [hexponent]
        exact Nat.mul_one _
      have hsmall : x.numerator < 2 ^ 53 * x.denominator := by
        rw [hnumerator]
        exact hx.trans_le (Nat.le_mul_of_pos_right _ hden)
      rw [UInt64.size]
      omega
    · have hdenominator : x.denominator = 1 := by
        have hexponent : (-x.exponent).toNat = 0 := by omega
        unfold denominator
        rw [hexponent, Nat.pow_eq, Nat.pow_zero]
      rw [hdenominator] at h ⊢
      omega
  unfold roundHalfUp
  refine Nat.div_lt_of_lt_mul ?_
  rw [Nat.mul_comm (2 * x.denominator)]
  exact hroom

end AuthGateway.Binary64
