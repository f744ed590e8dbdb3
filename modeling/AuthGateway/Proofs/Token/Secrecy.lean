import AuthGateway.Proofs.Token.Soundness

/-!
# What a verifier shows of its secret

Under a shared secret the only thing that is compared with it is the signature of a token.  So two
verifiers with different secrets find the same flaw in every token that carries the authentication
code of neither (`Verifier.findFlaw_congr`), and give the same verdict and the same log entries
(`Verifier.verify_congr`, `Verifier.log_congr`).
-/

namespace AuthGateway

/-- Whether a token carries the authentication code of its own message under a secret. -/
def CarriesCode (secret token : String) : Prop :=
  ∃ t, CompactToken.ofChars? token.toList = some t
    ∧ (VerifyingKey.shared (Utf8.encode secret)).Signs t.signedBytes t.signature

instance (secret token : String) : Decidable (CarriesCode secret token) :=
  match h : CompactToken.ofChars? token.toList with
  | none => .isFalse (by
    rintro ⟨t, ht, -⟩
    rw [h] at ht
    exact absurd ht (by simp))
  | some t => decidable_of_iff
    (t.signature = CompactToken.segment (Hmac.sha256 (Utf8.encode secret) t.signedBytes)) (by
    constructor
    · intro hsigns
      exact ⟨t, h, hsigns⟩
    · rintro ⟨t', ht', hsigns⟩
      obtain rfl := Option.some.inj (h.symm.trans ht')
      exact hsigns)

namespace Verifier

/-! ### Flaws -/

/-- Why a token does not open: the first step that fails. -/
inductive Flaw where
  /-- The token is not three segments. -/
  | segments
  /-- The first segment is not the text of any bytes. -/
  | headerText
  /-- These bytes are no header. -/
  | header
  /-- The header names another algorithm. -/
  | algorithm
  /-- The signature is not valid, or not even readable. -/
  | signature (check : SignatureCheck)
  /-- The second segment is not the text of any bytes. -/
  | payloadText
  /-- These bytes are no payload. -/
  | payload
  deriving DecidableEq, Repr

/-- The error that a flaw is reported as. -/
def Flaw.error : Flaw → VerifyError
  | .algorithm | .signature .invalid => .invalidSignature
  | _ => .malformed

/-- A value, or a flaw in its place. -/
def orFlaw {α : Type} (flaw : Flaw) : Option α → Except Flaw α
  | some a => .ok a
  | none => .error flaw

/-- The payload of a token, or the flaw for which it does not open. -/
def findFlaw (method : SigningMethod) (key : VerifyingKey) (token : List Char) :
    Except Flaw Payload := do
  let t ← orFlaw .segments (CompactToken.ofChars? token)
  let header ← orFlaw .headerText (CompactToken.segmentBytes? t.header)
  let algorithm ← orFlaw .header (TokenHeader.read header)
  if algorithm = method.algorithm then
    if key.check t = .valid then
      let payload ← orFlaw .payloadText (CompactToken.segmentBytes? t.payload)
      orFlaw .payload (Payload.read payload)
    else .error (.signature (key.check t))
  else .error .algorithm

variable {method : SigningMethod} {key : VerifyingKey} {token : List Char}

theorem mapError_orFlaw {α : Type} (flaw : Flaw) (o : Option α) :
    (orFlaw flaw o).mapError Flaw.error = orError flaw.error o := by
  cases o <;> rfl

/-- Opening a token reports the flaw. -/
theorem open?_eq_mapError :
    open? method key token = (findFlaw method key token).mapError Flaw.error := by
  rw [open?_eq, findFlaw]
  simp only [mapError_bind_eq, mapError_orFlaw]
  refine bind_congr fun t => bind_congr fun header => bind_congr fun algorithm => ?_
  by_cases halgorithm : algorithm = method.algorithm
  · rw [if_pos halgorithm, require, if_pos (decide_eq_true halgorithm)]
    cases key.check t with
    | valid =>
      rw [if_pos rfl]
      simp only [mapError_bind_eq, mapError_orFlaw]
      rfl
    | invalid => rfl
    | unreadable => rfl
  · rw [if_neg halgorithm, require, if_neg (by simpa using halgorithm)]
    rfl

/-! ### Two secrets -/

variable {secret₁ secret₂ : String} {skew : Nat} {debug : Bool} {now : Int} {text : String}

/-- A secret under which a token carries no code finds its signature invalid. -/
theorem check_of_not_carriesCode {secret : String} {t : CompactToken}
    (ht : CompactToken.ofChars? text.toList = some t) (h : ¬ CarriesCode secret text) :
    (VerifyingKey.shared (Utf8.encode secret)).check t = .invalid := by
  have hsignature :
      t.signature ≠ CompactToken.segment (Hmac.sha256 (Utf8.encode secret) t.signedBytes) :=
    fun hsigns => h ⟨t, ht, hsigns⟩
  rw [VerifyingKey.check, if_neg hsignature]

/-- A key only matters for what it finds of the signature. -/
theorem findFlaw_of_check {key₁ key₂ : VerifyingKey}
    (h : ∀ t, CompactToken.ofChars? token = some t → key₁.check t = key₂.check t) :
    findFlaw method key₁ token = findFlaw method key₂ token := by
  unfold findFlaw
  cases ht : CompactToken.ofChars? token with
  | none => rfl
  | some t =>
    -- the key occurs in the check of this token only
    simp only [orFlaw, bind, Except.bind, h t ht]

/-- In a token that carries the code of neither secret both find the same flaw. -/
theorem findFlaw_congr (h₁ : ¬ CarriesCode secret₁ text) (h₂ : ¬ CarriesCode secret₂ text) :
    findFlaw method (.shared (Utf8.encode secret₁)) text.toList
      = findFlaw method (.shared (Utf8.encode secret₂)) text.toList := by
  refine findFlaw_of_check fun t ht => ?_
  rw [check_of_not_carriesCode ht h₁, check_of_not_carriesCode ht h₂]

/-- On a token that carries the code of neither secret the verdict is the same. -/
theorem verify_congr (h₁ : ¬ CarriesCode secret₁ text) (h₂ : ¬ CarriesCode secret₂ text) :
    (ofSecret .hs256 secret₁ skew debug).verify now text
      = (ofSecret .hs256 secret₂ skew debug).verify now text := by
  have hkey (secret : String) :
      (ofSecret .hs256 secret skew debug).keys.key = .ok (.shared (Utf8.encode secret)) := rfl
  have hopen : open? .hs256 (.shared (Utf8.encode secret₁)) text.toList
      = open? .hs256 (.shared (Utf8.encode secret₂)) text.toList := by
    rw [open?_eq_mapError, open?_eq_mapError, findFlaw_congr h₁ h₂]
  rw [verify_of_key (hkey secret₁), verify_of_key (hkey secret₂)]
  show (require (Token.withinLimit text) .tokenTooLarge >>= fun _ =>
      open? .hs256 (.shared (Utf8.encode secret₁)) text.toList >>= checkTimes skew now)
    = require (Token.withinLimit text) .tokenTooLarge >>= fun _ =>
      open? .hs256 (.shared (Utf8.encode secret₂)) text.toList >>= checkTimes skew now
  rw [hopen]

/-- The entries about an outcome do not depend on the secret. -/
theorem log_congr (outcome : Except VerifyError Claims) :
    (ofSecret .hs256 secret₁ skew debug).log outcome
      = (ofSecret .hs256 secret₂ skew debug).log outcome := by
  cases outcome with
  | error e => rfl
  | ok c => rfl

end Verifier

end AuthGateway
