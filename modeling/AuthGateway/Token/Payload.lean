import AuthGateway.Json.Reader
import AuthGateway.Token.Claims

/-!
# Payloads

The second segment of a token is a JSON object.  Besides the claims it gives the bounds on the time
at which the token is good: `exp` and `nbf`, in seconds since the epoch.  Both are natural numbers
below `2 ^ 64`; floating point numbers in that range are rounded.  A value that is no such number
sets no bound, but an array or an object with anything in it is refused.

The registered names `exp`, `nbf`, `sub`, `iss` and `aud` may each occur once.
-/

namespace AuthGateway

/-- The claims of a token and its bounds on the time. -/
structure Payload where
  claims : Claims
  expires : Option Nat
  notBefore : Option Nat

namespace Payload

/-- A bound on the time. -/
inductive Bound where
  | at (seconds : Nat)
  | none
  | refused
  deriving DecidableEq, Repr

/-- The bound that a value sets. -/
def boundOf : Json → Bound
  | .number (.integer n) => if 0 ≤ n then .at n.toNat else .none
  | .number (.float x) =>
    if (!x.negative || x.isZero) && x.numerator < UInt64.size * x.denominator then .at x.roundHalfUp
    else .none
  | .array (_ :: _) => .refused
  | .object (_ :: _) => .refused
  | _ => .none

/-- The bound set under a name. -/
def bound? (bindings : List (String × Json)) (name : String) : Option (Option Nat) :=
  match (bindings.lookup name).map boundOf with
  | some (.at n) => some (some n)
  | some .refused => none
  | _ => some none

/-- The names that may occur once. -/
def registered : List String :=
  ["exp", "nbf", "sub", "iss", "aud"]

/-- Whether a name occurs at most once. -/
def isSingle (bindings : List (String × Json)) (name : String) : Bool :=
  (bindings.filter (·.1 = name)).length ≤ 1

/-- Whether the subject, if there is one, is neither an array nor an object. -/
def isSubject (bindings : List (String × Json)) : Bool :=
  match bindings.lookup "sub" with
  | some (.array _) | some (.object _) => false
  | _ => true

/-- The payload that bindings make up. -/
def ofBindings (bindings : List (String × Json)) : Option Payload := do
  guard (registered.all (isSingle bindings))
  guard (isSubject bindings)
  return ⟨⟨Json.Members.ofList bindings⟩, ← bound? bindings "exp", ← bound? bindings "nbf"⟩

/-- Read a payload. -/
def read (s : Bytes) : Option Payload :=
  match Json.Raw.read Json.maxDepth s with
  | some (.object members) => (Json.ofRawMembers members).bind ofBindings
  | _ => none

end Payload

end AuthGateway
