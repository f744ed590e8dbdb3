import AuthGateway.Http.Header
import AuthGateway.Text.Basic
import AuthGateway.Token.Bearer

/-!
# Finding the token of a request

A cookie of the configured name comes first; one whose value is empty does not count.  Without such
a cookie the first `Authorization` field decides.  Cookie fields that are not printable ASCII are
passed over whole.
-/

namespace AuthGateway

/-- What a request offers. -/
inductive Extraction where
  | found (token : String)
  /-- There is neither a cookie nor an `Authorization` value. -/
  | absent
  /-- There is an `Authorization` value, but it offers no token. -/
  | malformed
  deriving DecidableEq, Repr

namespace Extraction

/-! ### Cookies -/

/-- The name and the value of one cookie, both trimmed; quotes around the value are taken off. -/
def cookie? (piece : List Char) : Option (List Char × List Char) :=
  (Text.cutAt? '=' (Text.trim piece)).map fun (name, value) =>
    (Text.trim name, Text.trimWhere (· = '"') (Text.trim value))

/-- The cookies of one field. -/
def cookiesOf (value : List Char) : List (List Char × List Char) :=
  (value.splitOn ';').filterMap cookie?

/-- The cookies of a request, in order. -/
def cookies (h : Headers) : List (List Char × List Char) :=
  ((h.all "cookie").filterMap Header.text?).flatMap cookiesOf

/-- The first cookie of a name with a value that is not empty. -/
def cookieNamed? (h : Headers) (name : List Char) : Option (List Char) :=
  if name = [] then none
  else ((cookies h).find? fun c => c.1 = name ∧ c.2 ≠ []).map (·.2)

/-! ### The `Authorization` field -/

/-- What an `Authorization` value offers. -/
def ofAuthorization (value : String) : Extraction :=
  match Header.text? value with
  | none => .malformed
  | some text =>
    match Bearer.read text with
    | .nothing => .absent
    | .token t => .found t
    | .malformed => .malformed

/-- What a request offers, given the name of its cookie. -/
def ofHeaders (h : Headers) (cookieName : String) : Extraction :=
  match cookieNamed? h cookieName.toList with
  | some token => .found (String.ofList token)
  | none =>
    match h.get? "authorization" with
    | some value => ofAuthorization value
    | none => .absent

end Extraction

end AuthGateway
