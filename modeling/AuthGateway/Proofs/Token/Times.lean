import AuthGateway.Proofs.Json.Order
import AuthGateway.Proofs.Number.Magnitude
import AuthGateway.Proofs.Token.Soundness

/-!
# The times in accepted tokens

A payload is read twice: its claims hold any JSON numbers under `exp` and `nbf`, and the bounds that
are checked against the clock are natural numbers below `2 ^ 64`.  `Payload.Bounds` says how the two
are related.  Within the range of the bounds they differ by half a second at most; a number outside
it is a claim like any other, but sets no bound.

So an accepted token is good at the time, by its own claims and up to a second
(`Claims.IsTimely`), as long as these lie within the range (`Claims.HasReadableTimes`); and a token
with a time outside the range is not, although it is accepted (`Verifier.verify_isTimely_iff`).
-/

namespace AuthGateway

open Json

/-! ### Bounds and numbers -/

namespace Payload

/-- The bounds that a number can set. -/
inductive Bounds (n : Number) : Option Nat → Prop where
  /-- A negative number sets none. -/
  | negative (h : n.toRat < 0) : Bounds n none
  /-- A number beyond 64 bits sets none. -/
  | tooLarge (h : (UInt64.size : ℚ) ≤ n.toRat) : Bounds n none
  /-- A number that sets a bound is rounded to it. -/
  | rounded {t : Nat} (h : 0 ≤ n.toRat) (hle : (t : ℚ) ≤ n.toRat + 1 / 2)
      (hlt : n.toRat < (t : ℚ) + 1 / 2) : Bounds n (some t)

/-- The bound that a value sets, if it sets one. -/
def Bound.time? : Bound → Option Nat
  | .at t => some t
  | _ => Option.none

/-- The bound of an integer is the integer. -/
theorem bounds_integer (n : Int) :
    Bounds (.integer n) (boundOf (.number (.integer n))).time? := by
  rw [boundOf]
  split_ifs with h
  · have hcast : ((n.toNat : Nat) : ℚ) = n := by
      exact_mod_cast Int.toNat_of_nonneg h
    refine .rounded ?_ ?_ ?_
    · exact Int.cast_nonneg h
    · rw [hcast, Number.toRat]
      linarith
    · rw [hcast, Number.toRat]
      linarith
  · refine .negative ?_
    rw [Number.toRat]
    exact_mod_cast not_le.1 h

/-- The bound of a float is the natural number nearest to it. -/
theorem bounds_float (x : Binary64) : Bounds (.float x) (boundOf (.number (.float x))).time? := by
  have hcondition : ((!x.negative || x.isZero) && x.numerator < UInt64.size * x.denominator) = true
      ↔ 0 ≤ x.toRat ∧ x.toRat < UInt64.size := by
    rw [Bool.and_eq_true, decide_eq_true_eq, ← Binary64.toRat_nonneg_iff]
    exact and_congr_right fun h => (Binary64.toRat_lt_iff h _).symm
  rw [boundOf]
  split_ifs with h
  · obtain ⟨hnonneg, -⟩ := hcondition.1 h
    exact .rounded hnonneg (Binary64.roundHalfUp_le_toRat hnonneg)
      (Binary64.toRat_lt_roundHalfUp hnonneg)
  · rcases lt_or_ge x.toRat 0 with hneg | hnonneg
    · exact .negative hneg
    · exact .tooLarge (not_lt.1 fun hlt => h (hcondition.2 ⟨hnonneg, hlt⟩))

theorem bounds_number (n : Number) : Bounds n (boundOf (.number n)).time? := by
  cases n with
  | integer n => exact bounds_integer n
  | float x => exact bounds_float x

/-! ### Bounds and claims -/

/-- What bindings say when they make up a payload. -/
theorem eq_of_ofBindings {bindings : List (String × Json)} {p : Payload}
    (h : ofBindings bindings = some p) :
    registered.all (isSingle bindings) = true ∧ p.claims = ⟨Members.ofList bindings⟩
      ∧ bound? bindings "exp" = some p.expires ∧ bound? bindings "nbf" = some p.notBefore := by
  unfold ofBindings at h
  obtain ⟨_, hguard, h⟩ := Option.bind_eq_some_iff.1 h
  obtain ⟨_, -, h⟩ := Option.bind_eq_some_iff.1 h
  obtain ⟨expires, hexpires, h⟩ := Option.bind_eq_some_iff.1 h
  obtain ⟨notBefore, hnotBefore, h⟩ := Option.bind_eq_some_iff.1 h
  obtain rfl := Option.some.inj h
  exact ⟨(Option.guard_eq_some' _).1 hguard, rfl, hexpires, hnotBefore⟩

/-- A number under a name that is bound once sets the bound of that name. -/
theorem bounds_of_bound? {bindings : List (String × Json)} {name : String} {n : Number}
    {b : Option Nat} (hsingle : isSingle bindings name = true)
    (hget : (Members.ofList bindings).get? name = some (.number n))
    (hbound : bound? bindings name = some b) : Bounds n b := by
  have hlookup : bindings.lookup name = some (.number n) := by
    rw [← hget, Members.get?_ofList_of_length_le (of_decide_eq_true hsingle)]
  have hspec := bounds_number n
  unfold bound? at hbound
  rw [hlookup, Option.map_some] at hbound
  cases hof : boundOf (.number n) with
  | «at» t =>
    rw [hof] at hbound hspec
    obtain rfl := Option.some.inj hbound
    exact hspec
  | none =>
    rw [hof] at hbound hspec
    obtain rfl := Option.some.inj hbound
    exact hspec
  | refused =>
    rw [hof] at hbound
    exact absurd hbound (by simp)

/-- The bindings that a payload was read from. -/
theorem exists_ofBindings_of_read {s : Bytes} {p : Payload} (h : read s = some p) :
    ∃ bindings, ofBindings bindings = some p := by
  unfold read at h
  split at h
  · obtain ⟨bindings, -, h⟩ := Option.bind_eq_some_iff.1 h
    exact ⟨bindings, h⟩
  · exact absurd h (by simp)

variable {s : Bytes} {p : Payload} {n : Number}

/-- A number under `exp` bounds the time from above. -/
theorem bounds_expires (h : read s = some p) (hexp : p.claims.get? "exp" = some (.number n)) :
    Bounds n p.expires := by
  obtain ⟨bindings, h⟩ := exists_ofBindings_of_read h
  obtain ⟨hsingle, hclaims, hbound, -⟩ := eq_of_ofBindings h
  rw [Claims.get?, hclaims] at hexp
  exact bounds_of_bound? (List.all_eq_true.1 hsingle _ (by decide)) hexp hbound

/-- A number under `nbf` bounds the time from below. -/
theorem bounds_notBefore (h : read s = some p)
    (hnbf : p.claims.get? "nbf" = some (.number n)) : Bounds n p.notBefore := by
  obtain ⟨bindings, h⟩ := exists_ofBindings_of_read h
  obtain ⟨hsingle, hclaims, -, hbound⟩ := eq_of_ofBindings h
  rw [Claims.get?, hclaims] at hnbf
  exact bounds_of_bound? (List.all_eq_true.1 hsingle _ (by decide)) hnbf hbound

end Payload

/-! ### Good at the time -/

namespace Claims

/-- Whether what is claimed under a name satisfies a condition if it is a number. -/
def IfNumber (c : Claims) (name : String) (P : Number → Prop) : Prop :=
  ∀ n, c.get? name = some (.number n) → P n

instance (c : Claims) (name : String) (P : Number → Prop) [DecidablePred P] :
    Decidable (c.IfNumber name P) :=
  match h : c.get? name with
  | some (.number n) => decidable_of_iff (P n) (by simp [IfNumber, h])
  | none | some .null | some (.bool _) | some (.string _) | some (.array _) | some (.object _) =>
    isTrue (by simp [IfNumber, h])

/-- Whether claims are good at a time as far as numbers under `exp` and `nbf` say so, with the skew
and a second for fractions as a tolerance. -/
structure IsTimely (c : Claims) (skew : Nat) (now : Int) : Prop where
  expires : c.IfNumber "exp" fun n => (now : ℚ) < n.toRat + skew + 1
  notBefore : c.IfNumber "nbf" fun n => n.toRat < now + skew + 1

instance (c : Claims) (skew : Nat) (now : Int) : Decidable (c.IsTimely skew now) :=
  decidable_of_iff (_ ∧ _) ⟨fun h => ⟨h.1, h.2⟩, fun h => ⟨h.expires, h.notBefore⟩⟩

/-- Whether the numbers under `exp` and `nbf` are such that the verifier makes something of them
where it matters: it takes a negative number and one beyond 64 bits for no number at all. -/
structure HasReadableTimes (c : Claims) : Prop where
  expires : c.IfNumber "exp" fun n => 0 ≤ n.toRat
  notBefore : c.IfNumber "nbf" fun n => n.toRat < (UInt64.size : ℚ)

instance (c : Claims) : Decidable c.HasReadableTimes :=
  decidable_of_iff (_ ∧ _) ⟨fun h => ⟨h.1, h.2⟩, fun h => ⟨h.expires, h.notBefore⟩⟩

end Claims

namespace Verifier

open Payload (Bounds)

variable {skew : Nat} {now : Int} {n : Number} {b : Option Nat}

/-- A payload that has not expired is at most a second older than the number that sets its bound,
but negative numbers set none. -/
theorem lt_toRat_of_not_isExpired (hclock : now + skew < UInt64.size) (hn : 0 ≤ n.toRat)
    (hbound : Bounds n b) (h : isExpired skew now b = false) :
    (now : ℚ) < n.toRat + skew + 1 := by
  cases hbound with
  | negative hneg => exact absurd hn (not_le.2 hneg)
  | tooLarge hlarge =>
    have hnow : (now : ℚ) + skew < UInt64.size := by exact_mod_cast hclock
    have hskew : (0 : ℚ) ≤ skew := Nat.cast_nonneg skew
    linarith
  | @rounded t _ hle _ =>
    have ht : now ≤ t + skew := by
      unfold isExpired at h
      rw [decide_eq_false_iff_not] at h
      omega
    have ht' : (now : ℚ) ≤ t + skew := by exact_mod_cast ht
    linarith

/-- A payload that is not too early is at most a second younger than the number that sets its bound,
but numbers beyond 64 bits set none. -/
theorem toRat_lt_of_not_isEarly (hnow : 0 ≤ now) (hn : n.toRat < UInt64.size)
    (hbound : Bounds n b) (h : isEarly skew now b = false) : n.toRat < now + skew + 1 := by
  have hnow' : (0 : ℚ) ≤ now := Int.cast_nonneg hnow
  have hskew : (0 : ℚ) ≤ skew := Nat.cast_nonneg skew
  cases hbound with
  | negative hneg => linarith
  | tooLarge hlarge => exact absurd hn (not_lt.2 hlarge)
  | @rounded t _ _ hlt =>
    have ht : (t : Int) ≤ now + skew := by
      unfold isEarly at h
      rw [decide_eq_false_iff_not] at h
      omega
    have ht' : (t : ℚ) ≤ now + skew := by exact_mod_cast ht
    linarith

/-- The numbers under `exp` and `nbf` in accepted claims, and the bounds that were checked. -/
theorem bounds_of_verify {v : Verifier} {token : String} {c : Claims}
    (h : v.verify now token = .ok c) : ∃ expires notBefore,
      isExpired v.skew now expires = false ∧ isEarly v.skew now notBefore = false
        ∧ c.IfNumber "exp" (Bounds · expires) ∧ c.IfNumber "nbf" (Bounds · notBefore) := by
  obtain ⟨key, p, -, -, hopen, htimes⟩ := verify_eq_ok_iff.1 h
  obtain ⟨-, -, bytes, -, -, -, -, -, hread⟩ := open?_eq_ok_iff.1 hopen
  obtain ⟨hexpired, hearly, -, rfl⟩ := checkTimes_eq_ok_iff.1 htimes
  exact ⟨p.expires, p.notBefore, hexpired, hearly, fun n hn => Payload.bounds_expires hread hn,
    fun n hn => Payload.bounds_notBefore hread hn⟩

/-- At every reading of the clock, accepted claims are good at the time when the verifier could read
the times in them.  Where the skew does not reach back to the epoch, they are good at the time in
no other case: a negative `exp` and an `nbf` beyond 64 bits are accepted as if they were absent. -/
theorem verify_isTimely_iff {v : Verifier} {now : Int} {token : String} {c : Claims}
    (hnow : 0 ≤ now) (hclock : now + v.skew < UInt64.size) (h : v.verify now token = .ok c) :
    (c.HasReadableTimes → c.IsTimely v.skew now)
      ∧ (v.skew < now → (c.IsTimely v.skew now ↔ c.HasReadableTimes)) := by
  obtain ⟨expires, notBefore, hexpired, hearly, hexp, hnbf⟩ := bounds_of_verify h
  have htimely : c.HasReadableTimes → c.IsTimely v.skew now := by
    intro hreadable
    constructor
    · intro n hn
      exact lt_toRat_of_not_isExpired hclock (hreadable.expires n hn) (hexp n hn) hexpired
    · intro n hn
      exact toRat_lt_of_not_isEarly hnow (hreadable.notBefore n hn) (hnbf n hn) hearly
  refine ⟨htimely, fun hskew => ⟨fun h => ?_, htimely⟩⟩
  constructor
  · intro n hn
    have hlt := h.expires n hn
    have hskew' : (v.skew : ℚ) + 1 ≤ now := by exact_mod_cast hskew
    linarith
  · intro n hn
    have hlt := h.notBefore n hn
    have hclock' : (now : ℚ) + v.skew + 1 ≤ UInt64.size := by exact_mod_cast hclock
    linarith

/-- What is checked of accepted claims by evaluation. -/
theorem exists_of_any {outcome : Except VerifyError Claims} {P : Claims → Prop} [DecidablePred P]
    (h : outcome.toOption.any (P ·) = true) : ∃ c, outcome = .ok c ∧ P c := by
  cases outcome with
  | error e => exact absurd h Bool.false_ne_true
  | ok c => exact ⟨c, rfl, of_decide_eq_true h⟩

/-- A token that expires between two seconds, signed with the secret `secret`. -/
def boundedToken : String :=
  "eyJ0eXAiOiJKV1QiLCJhbGciOiJIUzI1NiJ9.eyJleHAiOjMwMDAuNSwibmJmIjoxMDAwfQ."
    ++ "9N5B0hdew_7U1bNxPsMyE-kzbik9_WnH56EM_GSU-8E"

/-- Within the skew after that time the token is accepted, and good up to a second. -/
theorem boundedToken_isTimely : ∃ c,
    (ofSecret .hs256 "secret" 60 false).verify 3060 boundedToken = .ok c
      ∧ c.IsTimely 60 3060 := by
  obtain ⟨c, hverify, hreadable⟩ : ∃ c,
      (ofSecret .hs256 "secret" 60 false).verify 3060 boundedToken = .ok c
        ∧ c.HasReadableTimes := exists_of_any (by decide +kernel)
  obtain ⟨htimely, -⟩ := verify_isTimely_iff (by decide) (by decide) hverify
  exact ⟨c, hverify, htimely hreadable⟩

/-- A token with the claim that it expires a second before the epoch. -/
def negativeToken : String :=
  "eyJ0eXAiOiJKV1QiLCJhbGciOiJIUzI1NiJ9.eyJleHAiOi0xfQ."
    ++ "o-kn7sY5_O45n70lvak72vedpuQAG3NYY6pERHnoaKc"

/-- A token with the claim that it is good from the first second that 64 bits do not hold. -/
def farToken : String :=
  "eyJ0eXAiOiJKV1QiLCJhbGciOiJIUzI1NiJ9.eyJuYmYiOjE4NDQ2NzQ0MDczNzA5NTUxNjE2fQ."
    ++ "e1YoDNAsf2jzRkpYZDlVHdrdVXW2rzjgH9IeSFM_KZg"

/-- Not all that is accepted is good at the time: neither of these tokens is. -/
theorem verify_accepts_untimely :
    (∃ c, (ofSecret .hs256 "secret" 0 false).verify 2000 negativeToken = .ok c
      ∧ ¬ c.IsTimely 0 2000)
    ∧ ∃ c, (ofSecret .hs256 "secret" 0 false).verify 2000 farToken = .ok c
      ∧ ¬ c.IsTimely 0 2000 :=
  ⟨exists_of_any (by decide +kernel), exists_of_any (by decide +kernel)⟩

end Verifier

end AuthGateway
