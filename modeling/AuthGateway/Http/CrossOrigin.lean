import AuthGateway.Http.Message
import AuthGateway.Http.Request

/-!
# Cross-origin requests

Browsers ask before they send some requests to another origin, and they show the answers to others
only where fields of the answer allow it.  Every origin is allowed, by name, because credentials
exclude the wildcard.
-/

namespace AuthGateway.CrossOrigin

/-- The methods that other origins may use. -/
def methods : List String :=
  ["GET", "POST", "PUT", "DELETE", "PATCH"]

/-- The fields that other origins may send. -/
def requestFields : List String :=
  ["origin", "accept", "content-type", "x-requested-with", "authorization", "time_zone"]

/-- The fields that other origins may see. -/
def shownFields : List String :=
  ["www-authenticate"]

/-- The fields that answers depend on. -/
def vary : List String :=
  ["origin", "access-control-request-method", "access-control-request-headers"]

/-- A list in a field to be compared. -/
def listed (l : List String) : String :=
  String.intercalate "," l

/-- Whether a request asks what is allowed. -/
def isPreflight (r : Request) : Bool :=
  r.method = "OPTIONS"

/-- Allow the origin of a request. -/
def allowOrigin (r : Request) (response : Response) : Response :=
  match r.headers.get? "origin" with
  | some origin => response.set "access-control-allow-origin" origin
  | none => response

/-- What all answers have in common. -/
def mark (r : Request) (response : Response) : Response :=
  allowOrigin r (response.add "vary" (String.intercalate ", " vary)
    |>.set "access-control-allow-credentials" "true")

/-- The answer to a request that asks what is allowed. -/
def preflight (r : Request) : Response :=
  mark r (Response.empty 200)
    |>.set "access-control-allow-methods" (listed methods)
    |>.set "access-control-allow-headers" (listed requestFields)

/-- The answer to a request, if it asks what is allowed. -/
def preflight? (r : Request) : Option Response :=
  if isPreflight r then some (preflight r) else none

/-- Any other answer. -/
def expose (r : Request) (response : Response) : Response :=
  (mark r response).set "access-control-expose-headers" (listed shownFields)

end AuthGateway.CrossOrigin
