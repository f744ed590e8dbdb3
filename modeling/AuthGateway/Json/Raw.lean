import AuthGateway.Encoding.Bytes

/-!
# The grammar of JSON texts

`Raw.read` accepts exactly the texts of the JSON grammar, over bytes, and gives their structure
without interpreting it: members of objects in the order they stand in, repeated names included;
number literals by their digits; strings by their bytes and `\u` escapes.  What a literal or a
string means, and whether it means anything, is settled in `AuthGateway.Json.Reader`.

Containers nested deeper than a given depth are refused.
-/

namespace AuthGateway.Json

/-- The exponent of a number literal. -/
structure ExponentPart where
  negative : Bool
  digits : List Nat
  deriving DecidableEq, Repr

/-- A number literal by its digits. -/
structure NumberLiteral where
  negative : Bool
  whole : List Nat
  /-- The digits after the point, when there is a point. -/
  fraction : Option (List Nat)
  exponent : Option ExponentPart
  deriving DecidableEq, Repr

/-- A piece of a string: a byte that stands for itself, or a `\u` escape. -/
inductive StringPiece where
  | byte (b : UInt8)
  | unit (n : Nat)
  deriving DecidableEq, Repr

/-- The structure of a JSON text. -/
inductive Raw where
  | null
  | bool (b : Bool)
  | number (literal : NumberLiteral)
  | string (pieces : List StringPiece)
  | array (items : List Raw)
  | object (members : List (List StringPiece × Raw))
  deriving BEq, Repr, Inhabited

namespace Raw

/-! ### Lexemes -/

/-- The byte of an ASCII character. -/
def byteOf (c : Char) : UInt8 :=
  c.toNat.toUInt8

/-- Spaces, tabs and line ends. -/
def isSpace (b : UInt8) : Bool :=
  b == 0x20 || b == 0x09 || b == 0x0A || b == 0x0D

/-- Skip spaces. -/
def skipSpaces (s : Bytes) : Bytes :=
  s.dropWhile isSpace

/-- The value of a decimal digit. -/
def digit? (b : UInt8) : Option Nat :=
  if byteOf '0' ≤ b ∧ b ≤ byteOf '9' then some (b.toNat - '0'.toNat) else none

/-- The value of a hexadecimal digit. -/
def hexDigit? (b : UInt8) : Option Nat :=
  if byteOf '0' ≤ b ∧ b ≤ byteOf '9' then some (b.toNat - '0'.toNat)
  else if byteOf 'a' ≤ b ∧ b ≤ byteOf 'f' then some (b.toNat - 'a'.toNat + 10)
  else if byteOf 'A' ≤ b ∧ b ≤ byteOf 'F' then some (b.toNat - 'A'.toNat + 10)
  else none

/-- The longest run of digits, and what follows it. -/
def digits : Bytes → List Nat × Bytes
  | [] => ([], [])
  | b :: s =>
    match digit? b with
    | some d => let (ds, rest) := digits s; (d :: ds, rest)
    | none => ([], b :: s)

/-- At least one digit. -/
def someDigits (s : Bytes) : Option (List Nat × Bytes) :=
  match digits s with
  | ([], _) => none
  | r => some r

/-- A fixed word, after which any byte may stand. -/
def expect (word : String) (s : Bytes) : Option Bytes :=
  let w := Utf8.encode word
  if w.isPrefixOf s then some (s.drop w.length) else none

/-- Digits without a superfluous leading zero. -/
def wholePart (s : Bytes) : Option (List Nat × Bytes) :=
  match someDigits s with
  | some (0 :: _ :: _, _) => none
  | r => r

/-- A point and digits, or nothing. -/
def fractionPart (s : Bytes) : Option (Option (List Nat) × Bytes) :=
  match s with
  | 0x2E :: s => (someDigits s).map fun (ds, rest) => (some ds, rest)
  | s => some (none, s)

/-- The sign of an exponent, if it has one. -/
def exponentSign (s : Bytes) : Bool × Bytes :=
  match s with
  | 0x2B :: s => (false, s)
  | 0x2D :: s => (true, s)
  | s => (false, s)

/-- An exponent mark, a sign and digits, or nothing. -/
def exponentPart (s : Bytes) : Option (Option ExponentPart × Bytes) :=
  match s with
  | b :: s' =>
    if b = byteOf 'e' ∨ b = byteOf 'E' then
      let (negative, s'') := exponentSign s'
      (someDigits s'').map fun (ds, rest) => (some ⟨negative, ds⟩, rest)
    else some (none, s)
  | [] => some (none, [])

/-- A number literal. -/
def readNumber (s : Bytes) : Option (NumberLiteral × Bytes) := do
  let (negative, s) := match s with
    | 0x2D :: s => (true, s)
    | s => (false, s)
  let (whole, s) ← wholePart s
  let (fraction, s) ← fractionPart s
  let (exponent, s) ← exponentPart s
  return (⟨negative, whole, fraction, exponent⟩, s)

/-- The byte that a one-letter escape stands for. -/
def shortEscape (b : UInt8) : Option UInt8 :=
  if b = byteOf '"' ∨ b = byteOf '\\' ∨ b = byteOf '/' then some b
  else if b = byteOf 'b' then some 0x08
  else if b = byteOf 'f' then some 0x0C
  else if b = byteOf 'n' then some 0x0A
  else if b = byteOf 'r' then some 0x0D
  else if b = byteOf 't' then some 0x09
  else none

/-- The four digits of a `\u` escape. -/
def hexUnit (a b c d : UInt8) : Option Nat := do
  return ((← hexDigit? a) * 16 + (← hexDigit? b)) * 256 + ((← hexDigit? c) * 16 + (← hexDigit? d))

/-- The pieces of a string up to its closing quote, and what follows the quote. -/
def readString : Bytes → Option (List StringPiece × Bytes)
  | 0x22 :: s => some ([], s)
  | 0x5C :: 0x75 :: a :: b :: c :: d :: s => do
    let n ← hexUnit a b c d
    let (pieces, rest) ← readString s
    return (.unit n :: pieces, rest)
  | 0x5C :: b :: s => do
    let e ← shortEscape b
    let (pieces, rest) ← readString s
    return (.byte e :: pieces, rest)
  | b :: s =>
    if b < 0x20 ∨ b = 0x5C then none
    else do
      let (pieces, rest) ← readString s
      return (.byte b :: pieces, rest)
  | [] => none

/-! ### Values -/

mutual

/-- A value, and what follows it.  `depth` containers may still be opened. -/
def readValue (fuel depth : Nat) (s : Bytes) : Option (Raw × Bytes) :=
  match fuel with
  | 0 => none
  | fuel + 1 =>
    match skipSpaces s with
    | 0x7B :: s => do
      guard (depth ≠ 0)
      match skipSpaces s with
      | 0x7D :: s => return (.object [], s)
      | s =>
        let (members, rest) ← readMembers fuel (depth - 1) s
        return (.object members, rest)
    | 0x5B :: s => do
      guard (depth ≠ 0)
      match skipSpaces s with
      | 0x5D :: s => return (.array [], s)
      | s =>
        let (items, rest) ← readItems fuel (depth - 1) s
        return (.array items, rest)
    | 0x22 :: s => do
      let (pieces, rest) ← readString s
      return (.string pieces, rest)
    | s =>
      match s with
      | 0x6E :: _ => do return (.null, ← expect "null" s)
      | 0x74 :: _ => do return (.bool true, ← expect "true" s)
      | 0x66 :: _ => do return (.bool false, ← expect "false" s)
      | _ => do
        let (literal, rest) ← readNumber s
        return (.number literal, rest)

/-- One or more items up to the bracket that closes their array. -/
def readItems (fuel depth : Nat) (s : Bytes) : Option (List Raw × Bytes) :=
  match fuel with
  | 0 => none
  | fuel + 1 => do
    let (item, s) ← readValue fuel depth s
    match skipSpaces s with
    | 0x2C :: s =>
      let (rest, s) ← readItems fuel depth s
      return (item :: rest, s)
    | 0x5D :: s => return ([item], s)
    | _ => none

/-- One or more members up to the brace that closes their object. -/
def readMembers (fuel depth : Nat) (s : Bytes) : Option (List (List StringPiece × Raw) × Bytes) :=
  match fuel with
  | 0 => none
  | fuel + 1 =>
    match skipSpaces s with
    | 0x22 :: s => do
      let (name, s) ← readString s
      match skipSpaces s with
      | 0x3A :: s =>
        let (item, s) ← readValue fuel depth s
        match skipSpaces s with
        | 0x2C :: s =>
          let (rest, s) ← readMembers fuel depth s
          return ((name, item) :: rest, s)
        | 0x7D :: s => return ([(name, item)], s)
        | _ => none
      | _ => none
    | _ => none

end

/-- A whole text: one value, with nothing but spaces around it. -/
def read (depth : Nat) (s : Bytes) : Option Raw := do
  let (v, rest) ← readValue (2 * s.length + 2) depth s
  guard (skipSpaces rest = [])
  return v

end Raw

end AuthGateway.Json
