import AuthGateway.Text.Basic
import AuthGateway.Text.Letters

/-!
# The `Authorization: Bearer` header

A value that is blank throughout offers no token.  A value of exactly two words, the first of them
`Bearer` in any letter case, offers the second word.  Every other value is malformed.
-/

namespace AuthGateway.Bearer

/-- What an `Authorization` value offers. -/
inductive Offer where
  | nothing
  | token (text : String)
  | malformed
  deriving DecidableEq, Repr

/-- The scheme, matched in any letter case. -/
def scheme : List Char := "Bearer".toList

/-- Read an `Authorization` value. -/
def read (value : List Char) : Offer :=
  match Text.words value with
  | [] => .nothing
  | [word, token] =>
    if Text.eqIgnoringCase word scheme then .token (String.ofList token) else .malformed
  | _ => .malformed

end AuthGateway.Bearer
