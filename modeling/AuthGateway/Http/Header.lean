import AuthGateway.Text.Basic
import AuthGateway.Text.Letters

/-!
# Header fields

Names are kept in lower case, and repeated fields in the order they came in.  A value is any text
without control characters, tabs apart; a value reads as text where all of it is printable ASCII.
-/

namespace AuthGateway

/-- Fields, by lower-case name. -/
abbrev Headers := List (String × String)

namespace Header

/-- The characters of names. -/
def isNameChar (c : Char) : Bool :=
  c.isAlphanum || "!#$%&*+-.^_|~".toList.contains c || c.toNat = 0x27 || c.toNat = 0x60

/-- The most characters of a name. -/
def maxNameLength : Nat := UInt16.size - 1

/-- A name in lower case, if it is one. -/
def name? (s : String) : Option String :=
  let cs := s.toList
  if cs ≠ [] ∧ cs.length ≤ maxNameLength ∧ cs.all isNameChar then
    some (String.ofList (Text.lower cs))
  else none

/-- Whether a text may be a value: it holds no control character below the space other than the
tab, and no delete character. -/
def isValue (s : String) : Bool :=
  s.toList.all fun c => c = '\t' || (0x20 ≤ c.toNat && c.toNat ≠ 0x7F)

/-- A value as text, when all of it is printable ASCII or tabs. -/
def text? (value : String) : Option (List Char) :=
  if value.toList.all Text.isHeaderText then some value.toList else none

/-- A field, if its name and its value may stand in a message. -/
def field? (name value : String) : Option (String × String) := do
  let name ← name? name
  if isValue value then some (name, value) else none

end Header

namespace Headers

/-- The first value of a name. -/
def get? (h : Headers) (name : String) : Option String :=
  h.lookup name

/-- All values of a name. -/
def all (h : Headers) (name : String) : List String :=
  (h.filter (·.1 = name)).map (·.2)

/-- Whether a name occurs. -/
def has (h : Headers) (name : String) : Bool :=
  h.any (·.1 = name)

/-- Without the fields of a name. -/
def erase (h : Headers) (name : String) : Headers :=
  h.filter (·.1 ≠ name)

/-- With one more field. -/
def add (h : Headers) (name value : String) : Headers :=
  h ++ [(name, value)]

/-- With one field of a name in the place of all. -/
def set (h : Headers) (name value : String) : Headers :=
  (h.erase name).add name value

end Headers

end AuthGateway
