import AuthGateway.Token.Key
import AuthGateway.Token.Payload
import AuthGateway.Token.Size

/-!
# Verifying tokens

A token is accepted when there is a key, the token is small enough, its header names the configured
algorithm, its signature is valid, its payload is an object, and the time is within the token's
bounds.  The checks are made in this order, and the first that fails gives the error.

Clocks may differ by the configured skew: `exp`, `nbf` and `iat` are each compared with that much
tolerance.  A token without one of them is not bounded by it.

The gateway does not mind how tokens are judged: a judge gives a verdict on a token at a time, and
entries to be logged about it.  The verifier over the configured key is the usual one.
-/

namespace AuthGateway

/-- Why a token was not accepted. -/
inductive VerifyError where
  | expired
  | notYetValid
  | issuedInFuture
  | invalidSignature
  | malformed
  | tokenTooLarge
  | keyUnavailable
  deriving DecidableEq, Repr

/-- The error in logs. -/
def VerifyError.message : VerifyError → String
  | .expired => "token has expired"
  | .notYetValid => "token is not yet valid"
  | .issuedInFuture => "token was issued in the future"
  | .invalidSignature => "token signature is invalid"
  | .malformed => "token is malformed"
  | .tokenTooLarge => "token exceeds the maximum allowed size"
  | .keyUnavailable => "signing key is unavailable"

/-- How tokens are verified. -/
structure Verifier where
  keys : KeyMaterial
  skew : Nat
  /-- Whether failures are logged for operators to see. -/
  debug : Bool

namespace Verifier

/-- Refuse with an error unless a condition holds. -/
def require (condition : Bool) (e : VerifyError) : Except VerifyError Unit :=
  if condition then .ok () else .error e

/-- A value, or an error in its place. -/
def orError {α : Type} (e : VerifyError) : Option α → Except VerifyError α
  | some a => .ok a
  | none => .error e

/-- The verified payload of a token, its time not yet checked. -/
def open? (method : SigningMethod) (key : VerifyingKey) (token : List Char) :
    Except VerifyError Payload := do
  let t ← orError .malformed (CompactToken.ofChars? token)
  let header ← orError .malformed (CompactToken.segmentBytes? t.header)
  let algorithm ← orError .malformed (TokenHeader.read header)
  require (algorithm = method.algorithm) .invalidSignature
  match key.check t with
  | .valid => pure ()
  | .invalid => throw .invalidSignature
  | .unreadable => throw .malformed
  let payload ← orError .malformed (CompactToken.segmentBytes? t.payload)
  orError .malformed (Payload.read payload)

/-- Whether a token that expires at a time has expired. -/
def isExpired (skew : Nat) (now : Int) : Option Nat → Bool
  | some t => (t : Int) < now - skew
  | none => false

/-- Whether a token that is good from a time on is not good yet. -/
def isEarly (skew : Nat) (now : Int) : Option Nat → Bool
  | some t => now + skew < t
  | none => false

/-- Whether a token was issued later than now. -/
def isFuture (skew : Nat) (now : Int) : Option Int → Bool
  | some t => now + skew < t
  | none => false

/-- Check a payload against the clock. -/
def checkTimes (skew : Nat) (now : Int) (p : Payload) : Except VerifyError Claims := do
  require (!isExpired skew now p.expires) .expired
  require (!isEarly skew now p.notBefore) .notYetValid
  require (!isFuture skew now p.claims.issuedAt) .issuedInFuture
  return p.claims

/-- The claims of a token at a time. -/
def verify (v : Verifier) (now : Int) (token : String) : Except VerifyError Claims :=
  match v.keys.key with
  | .error _ => .error .keyUnavailable
  | .ok key => do
    require (Token.withinLimit token) .tokenTooLarge
    checkTimes v.skew now (← open? v.keys.method key token.toList)

/-- The entries logged for a verification: an error whenever there is no key, and any other failure
where the settings ask for it.  The text that a decoder gives for a failure is left out. -/
def log (v : Verifier) (outcome : Except VerifyError Claims) : List LogEntry :=
  match v.keys.key, outcome with
  | .error e, _ =>
    [{ level := .error
       target := "edge.auth.jwt"
       message := "Verification attempted without a usable key"
       fields := [("error", .text e.message)] }]
  | .ok _, .error e =>
    if v.debug then
      [{ level := .info
         target := "edge.auth.jwt"
         message := "Token verification failed"
         fields := [("error", .text e.message)] }]
    else []
  | .ok _, .ok _ => []

end Verifier

/-! ### Judges -/

/-- Anything that judges tokens. -/
structure TokenJudge where
  verdict : Int → String → Except VerifyError Claims
  log : Int → String → List LogEntry

/-- A verifier as a judge. -/
def Verifier.judge (v : Verifier) : TokenJudge where
  verdict := v.verify
  log now token := v.log (v.verify now token)

end AuthGateway
