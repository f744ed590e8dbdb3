import AuthGateway.Encoding.Bytes
import AuthGateway.Http.Header
import AuthGateway.Json.Printer

/-!
# Responses

A response is a status, fields and a body.  The body is the content before any content coding: a
`content-encoding` field says how a server writes it out.  Lengths and dates are the server's
business as well.
-/

namespace AuthGateway

/-- A response. -/
structure Response where
  status : Nat
  headers : Headers
  body : Bytes
  deriving DecidableEq, Repr, Inhabited

namespace Response

/-- A response without a body. -/
def empty (status : Nat) : Response :=
  ⟨status, [], []⟩

/-- The content type of plain text. -/
def plainText : String := "text/plain; charset=utf-8"

/-- Plain text. -/
def ofText (status : Nat) (text : String) : Response :=
  ⟨status, [("content-type", plainText)], Utf8.encode text⟩

/-- A JSON text as it stands. -/
def ofJsonText (status : Nat) (text : String) : Response :=
  ⟨status, [("content-type", "application/json")], Utf8.encode text⟩

/-- A JSON value. -/
def ofJson (status : Nat) (v : Json) : Response :=
  ofJsonText status v.print

/-- With one more field. -/
def add (r : Response) (name value : String) : Response :=
  { r with headers := r.headers.add name value }

/-- With one field of a name in the place of all. -/
def set (r : Response) (name value : String) : Response :=
  { r with headers := r.headers.set name value }

/-- Without the fields of a name. -/
def erase (r : Response) (name : String) : Response :=
  { r with headers := r.headers.erase name }

end Response

end AuthGateway
