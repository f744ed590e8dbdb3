import AuthGateway.Json.Value
import AuthGateway.Number.Shortest

/-!
# Writing JSON values

Texts are compact: no spaces, members in the order of their names.  Inside strings only the quote,
the backslash and the characters below the space are escaped.  A floating point number is written
with the fewest digits that read back, positionally when its first digit stands for a power of ten
from `-5` to `15` and with an exponent otherwise.
-/

namespace AuthGateway.Json

/-- A hexadecimal digit in lower case. -/
def hexDigit (n : Nat) : Char :=
  if n < 10 then Char.ofNat ('0'.toNat + n) else Char.ofNat ('a'.toNat + n - 10)

/-- A character as it stands inside quotes. -/
def escapeChar (c : Char) : List Char :=
  if c = '"' then ['\\', '"']
  else if c = '\\' then ['\\', '\\']
  else if c = '\x08' then ['\\', 'b']
  else if c = '\x0c' then ['\\', 'f']
  else if c = '\n' then ['\\', 'n']
  else if c = '\r' then ['\\', 'r']
  else if c = '\t' then ['\\', 't']
  else if c.toNat < 0x20 then
    ['\\', 'u', '0', '0', hexDigit (c.toNat / 16), hexDigit (c.toNat % 16)]
  else [c]

/-- A string with its quotes. -/
def printString (s : String) : List Char :=
  '"' :: s.toList.flatMap escapeChar ++ ['"']

/-- An integer in decimal. -/
def printInt (n : Int) : List Char :=
  if n < 0 then '-' :: Nat.toDigits 10 n.natAbs else Nat.toDigits 10 n.natAbs

/-- The magnitude of a floating point number from its shortest decimal. -/
def printDecimal (d : Decimal) : List Char :=
  if -5 ≤ d.exponent ∧ d.exponent ≤ 15 then
    let (whole, fraction) := d.split
    whole ++ '.' :: (if fraction = [] then ['0'] else fraction)
  else
    let mantissa := match d.digits with
      | first :: second :: rest => first :: '.' :: second :: rest
      | digits => digits
    mantissa ++ 'e' :: (if 0 ≤ d.exponent then '+' :: printInt d.exponent else printInt d.exponent)

/-- A number. -/
def printNumber : Number → List Char
  | .integer n => printInt n
  | .float x => (if x.negative then ['-'] else []) ++ printDecimal (Decimal.shortest x)

mutual

/-- A value as compact text. -/
def printChars : Json → List Char
  | .null => "null".toList
  | .bool true => "true".toList
  | .bool false => "false".toList
  | .number n => printNumber n
  | .string s => printString s
  | .array items => '[' :: printItems items ++ [']']
  | .object members => '{' :: printMembers members ++ ['}']

/-- The items of an array with the commas between them. -/
def printItems : List Json → List Char
  | [] => []
  | [item] => printChars item
  | item :: rest => printChars item ++ ',' :: printItems rest

/-- The members of an object with the commas between them. -/
def printMembers : List (String × Json) → List Char
  | [] => []
  | [(name, value)] => printString name ++ ':' :: printChars value
  | (name, value) :: rest => printString name ++ ':' :: printChars value ++ ',' :: printMembers rest

end

/-- A value as compact text. -/
def print (v : Json) : String :=
  String.ofList (printChars v)

end AuthGateway.Json
