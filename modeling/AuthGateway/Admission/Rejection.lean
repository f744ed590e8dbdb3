import AuthGateway.Http.Message
import AuthGateway.Settings.Basic
import AuthGateway.Telemetry.Log

/-!
# Rejections

How requests that are turned away are answered.  The answer depends on the settings alone; the
reason is logged for operators and never shows in the answer.
-/

namespace AuthGateway

/-- Why a request was turned away. -/
inductive RejectionReason where
  | noToken
  | invalidToken
  | notInRequiredGroup
  deriving DecidableEq, Repr

/-- The reason in logs. -/
def RejectionReason.label : RejectionReason → String
  | .noToken => "no_token"
  | .invalidToken => "invalid_token"
  | .notInRequiredGroup => "not_in_required_group"

/-- The field whose value cannot stand in a message. -/
structure HeaderValueError where
  field : String
  deriving DecidableEq, Repr

/-- The one answer to all rejected requests. -/
inductive Responder where
  /-- A redirect to a location. -/
  | redirect (status : RedirectStatus) (location : String)
  /-- A challenge to present a token. -/
  | challenge (authenticate : String)
  deriving DecidableEq, Repr

namespace Responder

/-- A value that may stand in a message. -/
def headerValue (field value : String) : Except HeaderValueError String :=
  if Header.isValue value then .ok value else .error ⟨field⟩

/-- The challenge whose realm is a URL. -/
def challengeFor (url : String) : String :=
  "Bearer realm=\"" ++ url ++ "\""

/-- The answer that the settings ask for. -/
def ofSettings (s : TokenSettings) : Except HeaderValueError Responder :=
  match s.rejectionStyle with
  | .redirect status => (headerValue "Location" s.redirectUrl).map (.redirect status)
  | .challenge => (headerValue "WWW-Authenticate" (challengeFor s.redirectUrl)).map .challenge

/-- The status of the answer. -/
def status : Responder → Nat
  | .redirect s _ => s.code
  | .challenge _ => 401

/-- The body of a challenge. -/
def notAuthorized : String := "Not authorized"

/-- The answer. -/
def response : Responder → Response
  | .redirect s location => (Response.empty s.code).add "location" location
  | .challenge authenticate =>
    (Response.ofText 401 notAuthorized).add "www-authenticate" authenticate

/-- The entry logged for a rejected request. -/
def rejectionEntry (r : Responder) (reason : RejectionReason) (path : String) : LogEntry :=
  { level := .info
    target := "edge.auth.reject"
    message := "Request rejected"
    fields := [("reason", .text reason.label), ("path", .text path), ("status", .number r.status)] }

end Responder

end AuthGateway
