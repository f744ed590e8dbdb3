import AuthGateway.Json.Reader

/-!
# Token headers

The first segment of a token is a JSON object that names the signing algorithm.  Besides `alg` it
may hold a fixed set of other fields, each of them `null` or of a fixed shape, and any number of
unknown fields, whose values need only follow the grammar.  No known field may occur twice.

A header may also be an array of exactly ten items, the known fields in a fixed order.
-/

namespace AuthGateway

/-- The algorithms that a header can name. -/
inductive Algorithm where
  | hs256 | hs384 | hs512
  | es256 | es384
  | rs256 | rs384 | rs512
  | ps256 | ps384 | ps512
  | edDSA
  deriving DecidableEq, Repr

namespace Algorithm

/-- All algorithms. -/
def all : List Algorithm :=
  [hs256, hs384, hs512, es256, es384, rs256, rs384, rs512, ps256, ps384, ps512, edDSA]

/-- The name in headers. -/
def label : Algorithm → String
  | hs256 => "HS256"
  | hs384 => "HS384"
  | hs512 => "HS512"
  | es256 => "ES256"
  | es384 => "ES384"
  | rs256 => "RS256"
  | rs384 => "RS384"
  | rs512 => "RS512"
  | ps256 => "PS256"
  | ps384 => "PS384"
  | ps512 => "PS512"
  | edDSA => "EdDSA"

/-- The algorithm of a name. -/
def named? (name : String) : Option Algorithm :=
  all.find? fun a => a.label = name

end Algorithm

namespace TokenHeader

open Json

/-! ### Shapes of values -/

/-- The name that a value stands for where one of several names is expected: a string, or an object
that binds one name to `null`. -/
def choice? : Raw → Option String
  | .string pieces => ofPieces pieces
  | .object [(name, .null)] => ofPieces name
  | _ => none

/-- Whether a value is a string. -/
def isText : Raw → Bool
  | .string pieces => (ofPieces pieces).isSome
  | _ => false

/-- Whether a value is an array of strings. -/
def isTextList : Raw → Bool
  | .array items => items.all isText
  | _ => false

/-- Whether a value is `null` or has a shape. -/
def isOptional (shape : Raw → Bool) : Raw → Bool
  | .null => true
  | v => shape v

/-- Whether a value stands for one of some names. -/
def isOneOf (names : List String) (v : Raw) : Bool :=
  match choice? v with
  | some name => names.contains name
  | none => false

/-- Whether a value stands for one of some names, where an object may also bind its name to an empty
object. -/
def isOneOfBound (names : List String) : Raw → Bool
  | .object [(name, .object [])] => (ofPieces name).any names.contains
  | v => isOneOf names v

mutual

/-- How many containers stand around the innermost value. -/
def depth : Raw → Nat
  | .array items => itemsDepth items + 1
  | .object members => membersDepth members + 1
  | _ => 0

/-- The greatest depth of some items. -/
def itemsDepth : List Raw → Nat
  | [] => 0
  | item :: rest => max (depth item) (itemsDepth rest)

/-- The greatest depth of some members. -/
def membersDepth : List (List StringPiece × Raw) → Nat
  | [] => 0
  | (_, item) :: rest => max (depth item) (membersDepth rest)

end

/-! ### Members -/

/-- Members by name. -/
abbrev Fields := List (String × Raw)

/-- The members of an object, if all names are texts. -/
def fieldsOf (members : List (List StringPiece × Raw)) : Option Fields :=
  members.mapM fun (name, v) => (ofPieces name).map (·, v)

/-- All values of a name. -/
def valuesOf (fields : Fields) (name : String) : List Raw :=
  (fields.filter (·.1 = name)).map (·.2)

/-- Whether a name occurs at most once, and then with a value of a shape. -/
def isField (fields : Fields) (name : String) (shape : Raw → Bool) : Bool :=
  match valuesOf fields name with
  | [] => true
  | [v] => shape v
  | _ => false

/-- Whether a name occurs exactly once, with a value of a shape. -/
def needsField (fields : Fields) (name : String) (shape : Raw → Bool) : Bool :=
  match valuesOf fields name with
  | [v] => shape v
  | _ => false

/-! ### Embedded keys -/

/-- The algorithms of an embedded key. -/
def keyAlgorithms : List String :=
  ["HS256", "HS384", "HS512", "ES256", "ES384", "RS256", "RS384", "RS512", "PS256", "PS384",
    "PS512", "EdDSA", "RSA1_5", "RSA-OAEP", "RSA-OAEP-256"]

/-- The curves of an embedded key. -/
def curves : List String :=
  ["P-256", "P-384", "P-521", "Ed25519"]

/-- Whether members describe a key of one of the four kinds. -/
def isKeyMaterial (fields : Fields) : Bool :=
  let kind (name : String) := needsField fields "kty" (isOneOf [name])
  let text (name : String) := needsField fields name isText
  let curve := needsField fields "crv" (isOneOf curves)
  (kind "EC" && curve && text "x" && text "y") || (kind "RSA" && text "n" && text "e")
    || (kind "oct" && text "k") || (kind "OKP" && curve && text "x")

/-- The members of a key that do not depend on its kind. -/
def areKeyAttributes (fields : Fields) : Bool :=
  isField fields "use" (isOptional isText)
    && isField fields "key_ops" (isOptional isTextList)
    && isField fields "alg" (isOptional (isOneOfBound keyAlgorithms))
    && isField fields "kid" (isOptional isText)
    && isField fields "x5u" (isOptional isText)
    && isField fields "x5c" (isOptional isTextList)
    && isField fields "x5t" (isOptional isText)
    && isField fields "x5t#S256" (isOptional isText)

/-- Whether a value is an embedded key.  Unlike the rest of a header, all of it must have a meaning,
and it may not be nested deeper than a text on its own could be in the place of the header. -/
def isKey (v : Raw) : Bool :=
  (ofRaw v).isSome && depth v < maxDepth &&
    match v with
    | .object members =>
      match fieldsOf members with
      | some fields => areKeyAttributes fields && isKeyMaterial fields
      | none => false
    | _ => false

/-! ### Headers -/

/-- The known fields other than `alg` and their shapes, in the order of the array form; `alg` stands
second in it. -/
def knownFields : List (String × (Raw → Bool)) :=
  [("typ", isText), ("cty", isText), ("jku", isText), ("jwk", isKey), ("kid", isText),
    ("x5u", isText), ("x5c", isTextList), ("x5t", isText), ("x5t#S256", isText)]

/-- The algorithm that a value names. -/
def algorithm? (v : Raw) : Option Algorithm :=
  (choice? v).bind Algorithm.named?

/-- The algorithm of a header in the form of an object. -/
def ofFields (fields : Fields) : Option Algorithm :=
  if knownFields.all fun (name, shape) => isField fields name (isOptional shape) then
    match valuesOf fields "alg" with
    | [v] => algorithm? v
    | _ => none
  else none

/-- The algorithm of a header in the form of an array. -/
def ofItems : List Raw → Option Algorithm
  | typ :: alg :: rest =>
    let items := typ :: rest
    if items.length = knownFields.length
        ∧ (items.zip knownFields).all fun (v, _, shape) => isOptional shape v then
      algorithm? alg
    else none
  | _ => none

/-- The algorithm that a header names, when the bytes are a header. -/
def read (s : Bytes) : Option Algorithm :=
  match Raw.read s.length s with
  | some (.object members) => (fieldsOf members).bind ofFields
  | some (.array items) => ofItems items
  | _ => none

end TokenHeader

end AuthGateway
