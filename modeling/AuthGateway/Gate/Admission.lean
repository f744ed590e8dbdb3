import AuthGateway.Admission.Extraction
import AuthGateway.Admission.Rejection
import AuthGateway.Admission.Whitelist
import AuthGateway.Http.Outcome
import AuthGateway.Telemetry.Event
import AuthGateway.Token.Verifier

/-!
# Admitting requests

Two gates decide who gets in.  The first admits whitelisted paths without looking any further, and
other requests by the token that they present.  The second admits, of the requests that the first
one let in with a token, those whose caller belongs to a group.

Every refusal is answered alike, and its reason is logged.
-/

namespace AuthGateway

/-- The decision about a request: its context, or the reason to turn it away. -/
abbrev Decision := Except RejectionReason RequestContext

/-! ### By path or token -/

/-- The gate that asks for a token. -/
structure TokenGate where
  judge : TokenJudge
  whitelist : Whitelist
  responder : Responder
  webPrefix : String
  cookieName : String
  userProperty : String

namespace TokenGate

/-- Whether a path needs no token. -/
def isOpen (g : TokenGate) (path : String) : Bool :=
  g.whitelist.admits (effectivePath g.webPrefix.toList path.toList)

/-- The decision about a token. -/
def decideToken (g : TokenGate) (now : Int) (token : String) : Decision :=
  match g.judge.verdict now token with
  | .ok claims => .ok ⟨g.userProperty, .authenticated claims⟩
  | .error _ => .error .invalidToken

/-- The decision about a request, and what happens on the way to it. -/
def decide (g : TokenGate) (now : Int) (r : Request) : Decision × List Event :=
  if g.isOpen r.path then (.ok ⟨g.userProperty, .whitelisted⟩, [])
  else
    match Extraction.ofHeaders r.headers g.cookieName with
    | .found token =>
      (g.decideToken now token, .checked token :: (g.judge.log now token).map .logged)
    | .malformed => (.error .invalidToken, [])
    | .absent => (.error .noToken, [])

end TokenGate

/-! ### By group -/

/-- The gate that asks for a group. -/
structure GroupGate where
  group : String
  responder : Responder
  deriving DecidableEq, Repr

namespace GroupGate

/-- The entry logged when nobody has decided about a request yet. -/
def noContextEntry : LogEntry :=
  { level := .warn
    target := "edge.auth.group"
    message := "No request context; is the auth gate installed?"
    fields := [] }

/-- The decision about a request, given its context. -/
def decide (g : GroupGate) (context : Option RequestContext) : Decision × List Event :=
  match context with
  | none => (.error .noToken, [.logged noContextEntry])
  | some c =>
    match c.admission with
    | .whitelisted => (.ok c, [])
    | .authenticated claims =>
      if claims.isMemberOf g.group then (.ok c, []) else (.error .notInRequiredGroup, [])

end GroupGate

end AuthGateway
