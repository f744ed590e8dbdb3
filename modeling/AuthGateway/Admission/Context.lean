import AuthGateway.Token.Claims

/-!
# The context of a request

What was decided about a request when it was admitted: that it needs no token, or the claims of the
token it presented.  The application reads it.
-/

namespace AuthGateway

/-- How a request was admitted. -/
inductive Admission where
  /-- Its path needs no token. -/
  | whitelisted
  /-- Its token was verified. -/
  | authenticated (claims : Claims)
  deriving BEq, Repr

/-- The admission of a request, and the name under which the application shows the claims. -/
structure RequestContext where
  userProperty : String
  admission : Admission
  deriving BEq, Repr

namespace RequestContext

/-- Whether the request needed no token. -/
def isWhitelisted (c : RequestContext) : Bool :=
  match c.admission with
  | .whitelisted => true
  | .authenticated _ => false

/-- The verified claims. -/
def claims? (c : RequestContext) : Option Claims :=
  match c.admission with
  | .whitelisted => none
  | .authenticated claims => some claims

end RequestContext

end AuthGateway
