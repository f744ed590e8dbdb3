import AuthGateway.Proofs.Json.Range
import AuthGateway.Proofs.Token.Times

/-!
# When a token is accepted

The clock and the skew only decide about a token that opens, and they do so by three comparisons.
Each of them can only turn out better with more skew (`Verifier.verify_mono_skew`), and each holds
on one side of a time, so that a token is accepted during an interval
(`Verifier.verify_between`).

On a machine the comparisons are made with words of 64 bits.  The bounds that are read fit such
words (`Payload.lt_of_read`), and with a clock that has passed the greatest skew neither difference
nor sum leaves their range; only the sum with the time of issue may, and there it stops at the
greatest word (`Verifier.verifyInWords_eq`).
-/

namespace AuthGateway

/-! ### Bounds are words -/

namespace Payload

/-- The bound that a number in range sets is a word. -/
theorem lt_of_boundOf {n : Json.Number} (hn : n.IsWord) {t : Nat}
    (h : boundOf (.number n) = .at t) : t < UInt64.size := by
  unfold boundOf at h
  cases n with
  | integer n =>
    obtain ⟨-, hlt⟩ := hn
    dsimp only at h
    split_ifs at h with hnonneg
    rw [← Bound.at.inj h, UInt64.size]
    omega
  | float x =>
    dsimp only at h
    split_ifs at h with hrange
    rw [Bool.and_eq_true, decide_eq_true_eq] at hrange
    rw [← Bound.at.inj h]
    exact Binary64.roundHalfUp_lt hn hrange.2

/-- The bounds of a payload that was read are words. -/
theorem lt_of_bound? {members : List (List Json.StringPiece × Json.Raw)}
    {bindings : List (String × Json)} (hread : Json.ofRawMembers members = some bindings)
    {name : String} {t : Nat} (h : bound? bindings name = some (some t)) : t < UInt64.size := by
  unfold bound? at h
  cases hlookup : bindings.lookup name with
  | none =>
    rw [hlookup] at h
    exact absurd h (by simp)
  | some value =>
    rw [hlookup, Option.map_some] at h
    split at h
    · rename_i t' hbound
      obtain rfl := Option.some.inj (Option.some.inj h)
      cases value with
      | number n =>
        have hmem : (name, Json.number n) ∈ bindings := by
          obtain ⟨front, back, rfl, -⟩ := List.lookup_eq_some_iff.1 hlookup
          exact List.mem_append_right front List.mem_cons_self
        exact lt_of_boundOf (Json.isWord_of_ofRawMembers hread hmem) (Option.some.inj hbound)
      | null | bool | string => exact absurd hbound (by simp [boundOf])
      | array items => cases items <;> exact absurd hbound (by simp [boundOf])
      | object members => cases members <;> exact absurd hbound (by simp [boundOf])
    · exact absurd h (by simp)
    · exact absurd h (by simp)

/-- The bounds of a payload that was read are words. -/
theorem lt_of_read {s : Bytes} {p : Payload} (h : read s = some p) :
    (∀ t, p.expires = some t → t < UInt64.size)
      ∧ ∀ t, p.notBefore = some t → t < UInt64.size := by
  unfold read at h
  split at h
  · rename_i members _
    obtain ⟨bindings, hbindings, h⟩ := Option.bind_eq_some_iff.1 h
    obtain ⟨-, -, hexpires, hnotBefore⟩ := eq_of_ofBindings h
    constructor
    · intro t ht
      rw [ht] at hexpires
      exact lt_of_bound? hbindings hexpires
    · intro t ht
      rw [ht] at hnotBefore
      exact lt_of_bound? hbindings hnotBefore
  · exact absurd h (by simp)

end Payload

/-- The time of issue is a signed word. -/
theorem Claims.issuedAt_range {c : Claims} {t : Int} (h : c.issuedAt = some t) :
    -2 ^ 63 ≤ t ∧ t < 2 ^ 63 := by
  unfold Claims.issuedAt at h
  split at h
  all_goals first
    | rw [← Option.some.inj h, Claims.saturate]; exact ⟨by omega, by omega⟩
    | exact absurd h (by simp)

namespace Verifier

variable {v : Verifier} {token : String} {c c₁ c₂ : Claims} {p : Payload} {skew skew' : Nat}
  {now t₁ t₂ : Int}

/-! ### More skew, and times between -/

/-- A payload is good at a time when each of its times is on the right side of it. -/
theorem checkTimes_eq_ok_iff_forall : checkTimes skew now p = .ok c ↔
    (∀ t, p.expires = some t → now ≤ t + skew) ∧ (∀ t, p.notBefore = some t → t ≤ now + skew)
      ∧ (∀ t, p.claims.issuedAt = some t → t ≤ now + skew) ∧ p.claims = c := by
  have hexpired : isExpired skew now p.expires = false
      ↔ ∀ t, p.expires = some t → now ≤ t + skew := by
    cases p.expires with
    | none => simp [isExpired]
    | some t =>
      rw [isExpired, decide_eq_false_iff_not]
      simp only [Option.some.injEq, forall_eq']
      omega
  have hearly : isEarly skew now p.notBefore = false
      ↔ ∀ t, p.notBefore = some t → t ≤ now + skew := by
    cases p.notBefore with
    | none => simp [isEarly]
    | some t => simp [isEarly]
  have hfuture : isFuture skew now p.claims.issuedAt = false
      ↔ ∀ t, p.claims.issuedAt = some t → t ≤ now + skew := by
    cases p.claims.issuedAt with
    | none => simp [isFuture]
    | some t => simp [isFuture]
  rw [checkTimes_eq_ok_iff, hexpired, hearly, hfuture]

/-- With more skew no more payloads are refused. -/
theorem checkTimes_mono_skew (hskew : skew ≤ skew') (h : checkTimes skew now p = .ok c) :
    checkTimes skew' now p = .ok c := by
  obtain ⟨hexpires, hnotBefore, hissued, hclaims⟩ := checkTimes_eq_ok_iff_forall.1 h
  refine checkTimes_eq_ok_iff_forall.2 ⟨?_, ?_, ?_, hclaims⟩
  · intro t ht
    have hbound := hexpires t ht
    omega
  · intro t ht
    have hbound := hnotBefore t ht
    omega
  · intro t ht
    have hbound := hissued t ht
    omega

/-- A payload that is good at two times is good in between. -/
theorem checkTimes_between (hle₁ : t₁ ≤ now) (hle₂ : now ≤ t₂)
    (h₁ : checkTimes skew t₁ p = .ok c₁) (h₂ : checkTimes skew t₂ p = .ok c₂) :
    checkTimes skew now p = .ok c₁ := by
  obtain ⟨-, hnotBefore, hissued, hclaims⟩ := checkTimes_eq_ok_iff_forall.1 h₁
  obtain ⟨hexpires, -, -, -⟩ := checkTimes_eq_ok_iff_forall.1 h₂
  -- it has not expired since it will not have later, and it is not too new since it was not before
  refine checkTimes_eq_ok_iff_forall.2 ⟨?_, ?_, ?_, hclaims⟩
  · intro t ht
    have hbound := hexpires t ht
    omega
  · intro t ht
    have hbound := hnotBefore t ht
    omega
  · intro t ht
    have hbound := hissued t ht
    omega

/-- With more skew no more tokens are refused, and the claims are the same. -/
theorem verify_mono_skew (hskew : v.skew ≤ skew') (h : v.verify now token = .ok c) :
    { v with skew := skew' }.verify now token = .ok c := by
  obtain ⟨key, p, hkey, hsize, hopen, htimes⟩ := verify_eq_ok_iff.1 h
  exact verify_eq_ok_iff.2 ⟨key, p, hkey, hsize, hopen, checkTimes_mono_skew hskew htimes⟩

/-- A token that is accepted at two times is accepted in between, with the same claims. -/
theorem verify_between (hle₁ : t₁ ≤ now) (hle₂ : now ≤ t₂) (h₁ : v.verify t₁ token = .ok c₁)
    (h₂ : v.verify t₂ token = .ok c₂) : v.verify now token = .ok c₁ := by
  obtain ⟨key, p, hkey, hsize, hopen, htimes₁⟩ := verify_eq_ok_iff.1 h₁
  obtain ⟨key', p', hkey', -, hopen', htimes₂⟩ := verify_eq_ok_iff.1 h₂
  obtain rfl := Except.ok.inj (hkey.symm.trans hkey')
  obtain rfl := Except.ok.inj (hopen.symm.trans hopen')
  exact verify_eq_ok_iff.2
    ⟨key, p, hkey, hsize, hopen, checkTimes_between hle₁ hle₂ htimes₁ htimes₂⟩

/-! ### Words -/

/-- Whether a token that expires at a time has expired, in unsigned words. -/
def isExpiredInWords (leeway now : UInt64) : Option UInt64 → Bool
  | some t => t < now - leeway
  | none => false

/-- Whether a token that is good from a time on is not good yet, in unsigned words. -/
def isEarlyInWords (leeway now : UInt64) : Option UInt64 → Bool
  | some t => now + leeway < t
  | none => false

/-- The sum of two signed words, or the nearest word where it is none. -/
def saturatingAdd (a b : Int64) : Int64 :=
  .ofInt (Claims.saturate (a.toInt + b.toInt))

/-- An unsigned word as a signed one, or the greatest one where it is none. -/
def signedLeeway (leeway : UInt64) : Int64 :=
  if leeway.toNat < 2 ^ 63 then .ofNat leeway.toNat else .maxValue

/-- Whether a token was issued later than now, in signed words. -/
def isFutureInWords (leeway : UInt64) (now : Int64) : Option Int64 → Bool
  | some t => saturatingAdd now (signedLeeway leeway) < t
  | none => false

/-- The reading of a clock as an unsigned word. -/
def unsignedClock (now : Int64) : UInt64 :=
  .ofNat now.toInt.toNat

/-- Check a payload against the clock, in words. -/
def checkTimesInWords (leeway : UInt64) (now : Int64) (p : Payload) :
    Except VerifyError Claims := do
  require (!isExpiredInWords leeway (unsignedClock now) (p.expires.map .ofNat)) .expired
  require (!isEarlyInWords leeway (unsignedClock now) (p.notBefore.map .ofNat)) .notYetValid
  require (!isFutureInWords leeway now (p.claims.issuedAt.map .ofInt)) .issuedInFuture
  return p.claims

/-- The claims of a token at a time, the times compared in words. -/
def verifyInWords (v : Verifier) (now : Int64) (token : String) : Except VerifyError Claims :=
  match v.keys.key with
  | .error _ => .error .keyUnavailable
  | .ok key => do
    require (Token.withinLimit token) .tokenTooLarge
    checkTimesInWords (.ofNat v.skew) now (← open? v.keys.method key token.toList)

section Words

variable {now : Int64} (hnow : 600 ≤ now.toInt) (hskew : skew ≤ 600)

include hnow

theorem toNat_unsignedClock : (unsignedClock now).toNat = now.toInt := by
  have hlt := now.toInt_lt
  unfold unsignedClock
  rw [UInt64.toNat_ofNat_of_lt' (by rw [UInt64.size]; omega)]
  omega

omit hnow

include hskew

theorem toNat_leeway : (UInt64.ofNat skew).toNat = skew :=
  UInt64.toNat_ofNat_of_lt' (by rw [UInt64.size]; omega)

theorem toInt_signedLeeway : (signedLeeway (.ofNat skew)).toInt = skew := by
  have hlt : skew < 2 ^ 63 := by omega
  unfold signedLeeway
  rw [toNat_leeway hskew, if_pos hlt, Int64.toInt_ofNat_of_lt hlt]

include hnow

/-- The difference of clock and skew is exact. -/
theorem toNat_clock_sub : (unsignedClock now - UInt64.ofNat skew).toNat = now.toInt - skew := by
  have hclock := toNat_unsignedClock hnow
  have hleeway := toNat_leeway hskew
  have hle : UInt64.ofNat skew ≤ unsignedClock now := by
    rw [UInt64.le_iff_toNat_le]
    omega
  rw [UInt64.toNat_sub_of_le _ _ hle]
  omega

/-- The sum of clock and skew is exact. -/
theorem toNat_clock_add : (unsignedClock now + UInt64.ofNat skew).toNat = now.toInt + skew := by
  have hclock := toNat_unsignedClock hnow
  have hleeway := toNat_leeway hskew
  have hlt := now.toInt_lt
  rw [UInt64.toNat_add, Nat.mod_eq_of_lt (by omega)]
  omega

/-- The sum of clock and skew is exact in signed words, or it stops at the greatest of them. -/
theorem toInt_saturatingAdd :
    (saturatingAdd now (signedLeeway (.ofNat skew))).toInt = min (now.toInt + skew) (2 ^ 63 - 1) := by
  unfold saturatingAdd Claims.saturate
  rw [toInt_signedLeeway hskew, Int64.toInt_ofInt_of_le (by omega) (by omega)]
  omega

/-- Checking the time of a payload that was read is the same in words. -/
theorem checkTimesInWords_eq {s : Bytes} {p : Payload} (hread : Payload.read s = some p) :
    checkTimesInWords (.ofNat skew) now p = checkTimes skew now.toInt p := by
  obtain ⟨hexpires, hnotBefore⟩ := Payload.lt_of_read hread
  have hexpired : isExpiredInWords (.ofNat skew) (unsignedClock now) (p.expires.map .ofNat)
      = isExpired skew now.toInt p.expires := by
    cases hp : p.expires with
    | none => rfl
    | some t =>
      have hsub := toNat_clock_sub hnow hskew
      have ht := UInt64.toNat_ofNat_of_lt' (hexpires t hp)
      rw [Option.map_some, isExpiredInWords, isExpired, decide_eq_decide,
        UInt64.lt_iff_toNat_lt]
      omega
  have hearly : isEarlyInWords (.ofNat skew) (unsignedClock now) (p.notBefore.map .ofNat)
      = isEarly skew now.toInt p.notBefore := by
    cases hp : p.notBefore with
    | none => rfl
    | some t =>
      have hadd := toNat_clock_add hnow hskew
      have ht := UInt64.toNat_ofNat_of_lt' (hnotBefore t hp)
      rw [Option.map_some, isEarlyInWords, isEarly, decide_eq_decide, UInt64.lt_iff_toNat_lt]
      omega
  have hfuture : isFutureInWords (.ofNat skew) now (p.claims.issuedAt.map .ofInt)
      = isFuture skew now.toInt p.claims.issuedAt := by
    cases hp : p.claims.issuedAt with
    | none => rfl
    | some t =>
      -- where the sum stops at the greatest word, no time of issue lies beyond it
      have hadd := toInt_saturatingAdd hnow hskew
      obtain ⟨hlow, hhigh⟩ := Claims.issuedAt_range hp
      have ht := Int64.toInt_ofInt_of_le hlow hhigh
      rw [Option.map_some, isFutureInWords, isFuture, decide_eq_decide, Int64.lt_iff_toInt_lt,
        hadd, ht]
      omega
  unfold checkTimesInWords checkTimes
  rw [hexpired, hearly, hfuture]

end Words

/-- Verifying a token is the same in words. -/
theorem verifyInWords_eq {now : Int64} (hnow : 600 ≤ now.toInt) (hskew : v.skew ≤ 600) :
    v.verifyInWords now token = v.verify now.toInt token := by
  unfold verifyInWords verify
  cases hkey : v.keys.key with
  | error e => rfl
  | ok key =>
    dsimp only
    cases hopen : open? v.keys.method key token.toList with
    | error e => rfl
    | ok p =>
      obtain ⟨-, -, payload, -, -, -, -, -, hread⟩ := open?_eq_ok_iff.1 hopen
      have htimes := checkTimesInWords_eq hnow hskew hread
      show (require (Token.withinLimit token) .tokenTooLarge >>= fun _ =>
          checkTimesInWords (.ofNat v.skew) now p)
        = require (Token.withinLimit token) .tokenTooLarge >>= fun _ =>
          checkTimes v.skew now.toInt p
      rw [htimes]

/-- Acceptance grows with the skew and is an interval in time, for every token whatever it holds.
The arithmetic behind it never leaves the words that it is made with, so that comparing words gives
the same verdict. -/
theorem verify_window (v : Verifier) (hskew : v.skew ≤ 600) (token : String) :
    (∀ now : Int, 600 ≤ now → ∀ skew', v.skew ≤ skew' → skew' ≤ 600 →
        ∀ c, v.verify now token = .ok c → { v with skew := skew' }.verify now token = .ok c)
      ∧ (∀ t₁ now t₂ : Int, 600 ≤ t₁ → t₁ ≤ now → now ≤ t₂ →
        ∀ c₁ c₂, v.verify t₁ token = .ok c₁ → v.verify t₂ token = .ok c₂ →
          v.verify now token = .ok c₁ ∧ c₁ = c₂)
      ∧ ∀ now : Int64, 600 ≤ now.toInt →
        (unsignedClock now - UInt64.ofNat v.skew).toNat = now.toInt - v.skew
          ∧ (unsignedClock now + UInt64.ofNat v.skew).toNat = now.toInt + v.skew
          ∧ (saturatingAdd now (signedLeeway (.ofNat v.skew))).toInt
            = min (now.toInt + v.skew) (2 ^ 63 - 1)
          ∧ v.verifyInWords now token = v.verify now.toInt token := by
  refine ⟨?_, ?_, ?_⟩
  · intro now _ skew' hle _ c h
    exact verify_mono_skew hle h
  · intro t₁ now t₂ _ hle₁ hle₂ c₁ c₂ h₁ h₂
    have h := verify_between hle₁ hle₂ h₁ h₂
    have hsame := verify_between (hle₁.trans hle₂) le_rfl h₁ h₂
    exact ⟨h, Except.ok.inj (hsame.symm.trans h₂)⟩
  · intro now hnow
    exact ⟨toNat_clock_sub hnow hskew, toNat_clock_add hnow hskew, toInt_saturatingAdd hnow hskew,
      verifyInWords_eq hnow hskew⟩

/-- A token that the skew has accepted before its time and after it is accepted in between, with
more skew too. -/
theorem boundedToken_window : ∃ c,
    (ofSecret .hs256 "secret" 60 false).verify 940 boundedToken = .ok c
      ∧ (ofSecret .hs256 "secret" 60 false).verify 3060 boundedToken = .ok c
      ∧ (ofSecret .hs256 "secret" 60 false).verify 2000 boundedToken = .ok c
      ∧ (ofSecret .hs256 "secret" 600 false).verify 940 boundedToken = .ok c
      ∧ (ofSecret .hs256 "secret" 60 false).verifyInWords 2000 boundedToken = .ok c := by
  obtain ⟨hmono, hbetween, hwords⟩ :=
    verify_window (ofSecret .hs256 "secret" 60 false) (by decide) boundedToken
  obtain ⟨c₁, hfirst, -⟩ : ∃ c,
      (ofSecret .hs256 "secret" 60 false).verify 940 boundedToken = .ok c ∧ True :=
    exists_of_any (by decide +kernel)
  obtain ⟨c₂, hlast, -⟩ : ∃ c,
      (ofSecret .hs256 "secret" 60 false).verify 3060 boundedToken = .ok c ∧ True :=
    exists_of_any (by decide +kernel)
  obtain ⟨hmiddle, rfl⟩ :=
    hbetween 940 2000 3060 (by decide) (by decide) (by decide) c₁ c₂ hfirst hlast
  obtain ⟨-, -, -, hsame⟩ := hwords 2000 (by decide)
  refine ⟨c₁, hfirst, hlast, hmiddle, ?_, hsame.trans hmiddle⟩
  exact hmono 940 (by decide) 600 (by decide) (by decide) c₁ hfirst

end Verifier

end AuthGateway
