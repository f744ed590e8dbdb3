import AuthGateway.Number.Binary64

/-!
# JSON values

Numbers are integers of up to 64 bits or binary floating point numbers.  The members of an object
are kept in the order of their names, each name once, so equal objects are equal lists.
-/

namespace AuthGateway

/-- A JSON number. -/
inductive Json.Number where
  | integer (n : Int)
  | float (x : Binary64)
  deriving DecidableEq, Repr

/-- A JSON value. -/
inductive Json where
  | null
  | bool (b : Bool)
  | number (n : Json.Number)
  | string (s : String)
  | array (items : List Json)
  | object (members : List (String × Json))
  deriving BEq, Repr, Inhabited

namespace Json

/-- The members of an object, in the order of their names. -/
abbrev Members := List (String × Json)

namespace Members

/-- Bind a name, replacing what it was bound to before. -/
def insert (name : String) (value : Json) : Members → Members
  | [] => [(name, value)]
  | (n, v) :: rest =>
    if name < n then (name, value) :: (n, v) :: rest
    else if name = n then (name, value) :: rest
    else (n, v) :: insert name value rest

/-- Remove a name. -/
def erase (name : String) (m : Members) : Members :=
  m.filter (·.1 ≠ name)

/-- What a name is bound to. -/
def get? (name : String) (m : Members) : Option Json :=
  m.lookup name

/-- The members of a list of bindings in any order; of repeated names the last one counts. -/
def ofList (bindings : List (String × Json)) : Members :=
  bindings.foldl (fun m b => m.insert b.1 b.2) []

end Members

/-- The object of a list of bindings. -/
def ofBindings (bindings : List (String × Json)) : Json :=
  .object (Members.ofList bindings)

/-- What an object binds a name to; a value of any other shape binds none. -/
def get? (name : String) : Json → Option Json
  | .object members => Members.get? name members
  | _ => none

/-- The text of a string value. -/
def string? : Json → Option String
  | .string s => some s
  | _ => none

/-- The integer that is a value, for a whole number. -/
def ofNat (n : Nat) : Json :=
  .number (.integer n)

/-- The strings among the items of an array, repeats included.  A value of any other shape has
none. -/
def stringItems : Option Json → List String
  | some (.array items) => items.filterMap string?
  | _ => []

/-! ### Sets of strings -/

/-- Put a string in its place in a list that is in order, unless it is there already. -/
def insertOnce (s : String) : List String → List String
  | [] => [s]
  | t :: rest =>
    if s < t then s :: t :: rest
    else if s = t then t :: rest
    else t :: insertOnce s rest

/-- The strings among the items of an array, in order and each once. -/
def stringSet (v : Option Json) : List String :=
  (stringItems v).foldl (fun set s => insertOnce s set) []

end Json

end AuthGateway
