import AuthGateway.Admission.Context
import AuthGateway.Encoding.Bytes
import AuthGateway.Http.Header
import AuthGateway.Http.Uri

/-!
# Requests

A request as the gateway and the application see it.  The name of its method is a word of the
characters that names of fields have; its letter case counts.  The context is there once the request
has been admitted.
-/

namespace AuthGateway

namespace Method

/-- Whether a text may be a method. -/
def isName (s : String) : Bool :=
  s ≠ "" && s.toList.all Header.isNameChar

/-- Whether a method asks for a page, or for the head of one. -/
def asksForPage (method : String) : Bool :=
  method = "GET" || method = "HEAD"

end Method

/-- A request. -/
structure Request where
  method : String
  uri : Uri
  headers : Headers
  body : Bytes
  context : Option RequestContext
  deriving BEq, Repr

namespace Request

/-- The path of the target. -/
def path (r : Request) : String :=
  r.uri.path

/-- A request of a client, if its method, its target and its fields may stand in a message. -/
def ofParts? (method target : String) (headers : List (String × String)) (body : Bytes) :
    Option Request := do
  let uri ← Uri.ofText? target
  let headers ← headers.mapM fun (name, value) => Header.field? name value
  if Method.isName method then some ⟨method, uri, headers, body, none⟩ else none

/-- An admitted request. -/
def withContext (r : Request) (context : RequestContext) : Request :=
  { r with context := some context }

end Request

end AuthGateway
