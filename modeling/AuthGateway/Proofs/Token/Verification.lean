import AuthGateway.Proofs.Control.Steps
import AuthGateway.Proofs.Crypto.Rsa
import AuthGateway.Proofs.Token.Compact
import AuthGateway.Token.Verifier

/-!
# What the verifier does

The verifier checks one thing after another, and the first check that fails gives the error.  Each
part of it is turned into what it says: `open?` succeeds on authentic tokens with a readable payload
(`open?_eq_ok_iff`) and never fails for a reason of time (`open?_eq_error`), `checkTimes` only fails
for such reasons (`checkTimes_eq_error`), and `verify` accepts exactly when both succeed for a small
token and a usable key (`verify_eq_ok_iff`).

`VerifyingKey.Signs` says what a signature is without saying how it is checked.  The check decides
it (`check_eq_valid_iff`).
-/

namespace AuthGateway

/-! ### Signatures -/

namespace VerifyingKey

/-- Whether a text is the signature of a message: the text of the authentication code under a
shared secret, or the text of a signature under an RSA key. -/
def Signs (k : VerifyingKey) (message : Bytes) (signature : List Char) : Prop :=
  match k with
  | .shared secret => signature = CompactToken.segment (Hmac.sha256 secret message)
  | .rsa der => ∃ key s, Rsa.PublicKey.ofDer? der = some key
      ∧ signature = CompactToken.segment s ∧ key.IsSignature message s

/-- The check decides what a signature is. -/
theorem check_eq_valid_iff {k : VerifyingKey} {t : CompactToken} :
    k.check t = .valid ↔ k.Signs t.signedBytes t.signature := by
  cases k with
  | shared secret =>
    rw [check, Signs]
    split_ifs with h
    · exact ⟨fun _ => h, fun _ => rfl⟩
    · exact ⟨fun hcheck => absurd hcheck (by decide), fun hsigns => absurd hsigns h⟩
  | rsa der =>
    simp only [check, Signs]
    constructor
    · intro h
      split at h
      · exact absurd h (by decide)
      · rename_i s hs
        split at h
        · exact absurd h (by decide)
        · rename_i key hkey
          split_ifs at h with hverify
          exact ⟨key, s, hkey, CompactToken.segmentBytes?_eq_some_iff.1 hs,
            Rsa.PublicKey.verify_eq_true_iff.1 hverify⟩
    · rintro ⟨key, s, hkey, hs, hsignature⟩
      rw [CompactToken.segmentBytes?_eq_some_iff.2 hs]
      simp only [hkey, Rsa.PublicKey.verify_eq_true_iff.2 hsignature, ↓reduceIte]

end VerifyingKey

namespace Verifier

/-! ### Steps that can fail -/

section Steps

variable {α : Type} {e e' : VerifyError}

theorem require_eq_ok_iff {condition : Bool} {u : Unit} :
    require condition e = .ok u ↔ condition = true := by
  cases condition <;> simp [require]

theorem require_eq_error_iff {condition : Bool} :
    require condition e = .error e' ↔ condition = false ∧ e = e' := by
  cases condition <;> simp [require]

theorem orError_eq_ok_iff {o : Option α} {a : α} : orError e o = .ok a ↔ o = some a := by
  cases o <;> simp [orError]

theorem orError_eq_error_iff {o : Option α} : orError e o = .error e' ↔ o = none ∧ e = e' := by
  cases o <;> simp [orError]

end Steps

/-! ### Opening a token -/

section Opening

variable {method : SigningMethod} {key : VerifyingKey} {token : List Char}

/-- The check of a signature, as a step. -/
def checkStep (c : SignatureCheck) : Except VerifyError Unit :=
  match c with
  | .valid => .ok ()
  | .invalid => .error .invalidSignature
  | .unreadable => .error .malformed

theorem checkStep_eq_ok_iff {c : SignatureCheck} {u : Unit} :
    checkStep c = .ok u ↔ c = .valid := by
  cases c <;> simp [checkStep]

theorem checkStep_eq_error {c : SignatureCheck} {e : VerifyError} (h : checkStep c = .error e) :
    e = .invalidSignature ∨ e = .malformed := by
  cases c <;> simp_all [checkStep]

/-- Opening a token, step by step. -/
theorem open?_eq (method : SigningMethod) (key : VerifyingKey) (token : List Char) :
    open? method key token = (do
      let t ← orError .malformed (CompactToken.ofChars? token)
      let header ← orError .malformed (CompactToken.segmentBytes? t.header)
      let algorithm ← orError .malformed (TokenHeader.read header)
      require (algorithm = method.algorithm) .invalidSignature
      checkStep (key.check t)
      let payload ← orError .malformed (CompactToken.segmentBytes? t.payload)
      orError .malformed (Payload.read payload)) := by
  unfold open?
  congr! 7 with t header algorithm
  cases key.check _ <;> rfl

/-- A token opens when its header names the method, its signature is valid and its payload is
readable. -/
theorem open?_eq_ok_iff {p : Payload} :
    open? method key token = .ok p ↔ ∃ t header payload,
      CompactToken.ofChars? token = some t
        ∧ t.header = CompactToken.segment header
        ∧ TokenHeader.read header = some method.algorithm
        ∧ key.Signs t.signedBytes t.signature
        ∧ t.payload = CompactToken.segment payload
        ∧ Payload.read payload = some p := by
  rw [open?_eq]
  simp only [bind_eq_ok_iff, orError_eq_ok_iff, require_eq_ok_iff, checkStep_eq_ok_iff,
    CompactToken.segmentBytes?_eq_some_iff, VerifyingKey.check_eq_valid_iff, decide_eq_true_eq]
  constructor
  · rintro ⟨t, ht, header, hheader, a, hread, -, rfl, -, hsigns, payload, hpayload, hp⟩
    exact ⟨t, header, payload, ht, hheader, hread, hsigns, hpayload, hp⟩
  · rintro ⟨t, header, payload, ht, hheader, hread, hsigns, hpayload, hp⟩
    exact ⟨t, ht, header, hheader, _, hread, (), rfl, (), hsigns, payload, hpayload, hp⟩

/-- A token that does not open is malformed or not signed. -/
theorem open?_eq_error {e : VerifyError} (h : open? method key token = .error e) :
    e = .invalidSignature ∨ e = .malformed := by
  rw [open?_eq] at h
  simp only [bind_eq_error_iff, orError_eq_error_iff, require_eq_error_iff] at h
  rcases h with ⟨-, rfl⟩ | ⟨t, -, ⟨-, rfl⟩ | ⟨_, -, ⟨-, rfl⟩ | ⟨_, -, ⟨-, rfl⟩ | ⟨_, -, h⟩⟩⟩⟩
  · exact Or.inr rfl
  · exact Or.inr rfl
  · exact Or.inr rfl
  · exact Or.inl rfl
  · rcases h with h | ⟨_, -, ⟨-, rfl⟩ | ⟨_, -, -, rfl⟩⟩
    · exact checkStep_eq_error h
    · exact Or.inr rfl
    · exact Or.inr rfl

end Opening

/-! ### Checking the time -/

/-- A payload is good at a time when it is neither too old nor too new. -/
theorem checkTimes_eq_ok_iff {skew : Nat} {now : Int} {p : Payload} {c : Claims} :
    checkTimes skew now p = .ok c ↔ isExpired skew now p.expires = false
      ∧ isEarly skew now p.notBefore = false ∧ isFuture skew now p.claims.issuedAt = false
      ∧ p.claims = c := by
  simp only [checkTimes, bind_eq_ok_iff, require_eq_ok_iff, Bool.not_eq_true', exists_and_left,
    exists_const]
  simp only [pure, Except.pure, Except.ok.injEq]

/-- A payload is only refused for a reason of time. -/
theorem checkTimes_eq_error {skew : Nat} {now : Int} {p : Payload} {e : VerifyError}
    (h : checkTimes skew now p = .error e) :
    e = .expired ∨ e = .notYetValid ∨ e = .issuedInFuture := by
  simp only [checkTimes, bind_eq_error_iff, require_eq_error_iff] at h
  rcases h with ⟨-, rfl⟩ | ⟨_, -, ⟨-, rfl⟩ | ⟨_, -, ⟨-, rfl⟩ | ⟨_, -, h⟩⟩⟩
  · exact Or.inl rfl
  · exact Or.inr (Or.inl rfl)
  · exact Or.inr (Or.inr rfl)
  · cases h

/-! ### Verifying -/

variable {v : Verifier} {now : Int} {token : String}

theorem verify_of_key {key : VerifyingKey} (h : v.keys.key = .ok key) :
    v.verify now token = (do
      require (Token.withinLimit token) .tokenTooLarge
      checkTimes v.skew now (← open? v.keys.method key token.toList)) := by
  rw [verify, h]

/-- Without a key there is one answer. -/
theorem verify_of_keyError {e : KeyError} (h : v.keys.key = .error e) :
    v.verify now token = .error .keyUnavailable := by
  rw [verify, h]

/-- Only small tokens that open and are good at the time are accepted, and only with a key. -/
theorem verify_eq_ok_iff {c : Claims} :
    v.verify now token = .ok c ↔ ∃ key p, v.keys.key = .ok key
      ∧ token.utf8ByteSize ≤ Token.maxBytes
      ∧ open? v.keys.method key token.toList = .ok p ∧ checkTimes v.skew now p = .ok c := by
  cases hkey : v.keys.key with
  | error e => simp [verify_of_keyError hkey]
  | ok key =>
    rw [verify_of_key hkey]
    simp only [bind_eq_ok_iff, require_eq_ok_iff, Token.withinLimit, decide_eq_true_eq]
    constructor
    · rintro ⟨_, hsize, p, hopen, htimes⟩
      exact ⟨key, p, rfl, hsize, hopen, htimes⟩
    · rintro ⟨key', p, hkey', hsize, hopen, htimes⟩
      obtain rfl := Except.ok.inj hkey'
      exact ⟨(), hsize, p, hopen, htimes⟩

/-- A token that is too large is not looked at. -/
theorem verify_eq_tooLarge {key : VerifyingKey} (hkey : v.keys.key = .ok key)
    (h : Token.maxBytes < token.utf8ByteSize) : v.verify now token = .error .tokenTooLarge := by
  have hlimit : Token.withinLimit token = false := by
    rw [Token.withinLimit, decide_eq_false_iff_not]
    omega
  rw [verify_of_key hkey, hlimit]
  rfl

/-- The time is only checked for tokens that open. -/
theorem exists_open?_of_verify_eq_error {e : VerifyError} (h : v.verify now token = .error e)
    (he : e = .expired ∨ e = .notYetValid ∨ e = .issuedInFuture) :
    ∃ key p, v.keys.key = .ok key ∧ token.utf8ByteSize ≤ Token.maxBytes
      ∧ open? v.keys.method key token.toList = .ok p ∧ checkTimes v.skew now p = .error e := by
  cases hkey : v.keys.key with
  | error e' =>
    rw [verify_of_keyError hkey, Except.error.injEq] at h
    subst h
    simp at he
  | ok key =>
    rw [verify_of_key hkey] at h
    simp only [bind_eq_error_iff, require_eq_error_iff, require_eq_ok_iff, Token.withinLimit,
      decide_eq_true_eq] at h
    rcases h with ⟨-, rfl⟩ | ⟨_, hsize, hopen | ⟨p, hopen, htimes⟩⟩
    -- neither the size nor the opening fails for a reason of time
    · simp at he
    · rcases open?_eq_error hopen with rfl | rfl <;> simp at he
    · exact ⟨key, p, rfl, hsize, hopen, htimes⟩

end Verifier

end AuthGateway
