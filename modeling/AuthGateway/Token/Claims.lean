import AuthGateway.Json.Value

/-!
# Claims

The payload of a verified token: a JSON object with members of any names.  Three of them have a
meaning here.  `sub` names the caller when it is a string, `iat` is the time of issue when it is a
number, and `groups` lists memberships when it is an array; items of that array that are not
strings are passed over, and a value of any other shape lists none.
-/

namespace AuthGateway

/-- The members of a payload. -/
structure Claims where
  members : Json.Members
  deriving BEq, Repr, Inhabited

namespace Claims

/-- The claim of a name. -/
def get? (c : Claims) (name : String) : Option Json :=
  c.members.get? name

/-- The name of the caller. -/
def subject (c : Claims) : Option String :=
  (c.get? "sub").bind Json.string?

/-- An integer moved into the range of 64-bit signed integers. -/
def saturate (n : Int) : Int :=
  max (-0x8000000000000000) (min n 0x7FFFFFFFFFFFFFFF)

/-- The time of issue in whole seconds since the epoch, fractions dropped. -/
def issuedAt (c : Claims) : Option Int :=
  match c.get? "iat" with
  | some (.number (.integer n)) => some (saturate n)
  | some (.number (.float x)) => some (saturate x.truncate)
  | _ => none

/-- The memberships, in order and each once. -/
def groups (c : Claims) : List String :=
  Json.stringSet (c.get? "groups")

/-- Whether a group is among the memberships. -/
def isMemberOf (c : Claims) (group : String) : Bool :=
  (Json.stringItems (c.get? "groups")).contains group

/-- The claims that a JSON value is, for an object. -/
def ofJson? : Json → Option Claims
  | .object members => some ⟨members⟩
  | _ => none

/-- The claims as a JSON value. -/
def toJson (c : Claims) : Json :=
  .object c.members

end Claims

end AuthGateway
