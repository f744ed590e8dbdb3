import AuthGateway.Http.Message
import AuthGateway.Http.Request

/-!
# Outcomes

A handler answers a request, or it breaks off and leaves a value behind that says why.
-/

namespace AuthGateway

/-- What a handler left behind when it broke off. -/
inductive PanicPayload where
  | text (s : String)
  /-- A value that is no text. -/
  | other
  deriving DecidableEq, Repr

/-- The payload as a text. -/
def PanicPayload.describe : PanicPayload → String
  | .text s => s
  | .other => "unknown panic payload"

/-- What became of a request. -/
inductive Outcome where
  | answered (response : Response)
  | panicked (payload : PanicPayload)
  deriving DecidableEq, Repr

namespace Outcome

/-- Change the response, where there is one. -/
def mapResponse (f : Response → Response) : Outcome → Outcome
  | .answered r => .answered (f r)
  | .panicked p => .panicked p

/-- The status of the response, where there is one. -/
def status? : Outcome → Option Nat
  | .answered r => some r.status
  | .panicked _ => none

end Outcome

/-- A part of the application. -/
abbrev Handler := Request → Outcome

end AuthGateway
