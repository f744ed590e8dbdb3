import AuthGateway.Text.Basic
import AuthGateway.Text.Letters

/-!
# Environment variables

An `Environment` is what the process was started with: a text for some of the names.  The readers
below give each variable a default for when it is unset, and refuse a text that does not read as
the kind of value asked for.  Booleans and integers are trimmed before they are read; lists are
cut at commas and every piece is trimmed.
-/

namespace AuthGateway

/-- The variables that are set, by name. -/
abbrev Environment := String → Option String

/-- Why the text of a variable was refused. -/
inductive VariableError where
  /-- The text is none of the six spellings of a boolean. -/
  | invalidBool (name value : String)
  /-- The text is not a decimal integer in range. -/
  | invalidInteger (name value : String)
  deriving DecidableEq, Repr

/-- The message shown to the operator; the text is quoted as it was set, untrimmed. -/
def VariableError.message : VariableError → String
  | .invalidBool name value =>
    name ++ " must be a boolean (true/false/1/0/yes/no), got '" ++ value ++ "'"
  | .invalidInteger name value =>
    name ++ " must be a valid integer, got '" ++ value ++ "'"

namespace Environment

/-! ### Reading one text -/

/-- A boolean, in any letter case and between any blanks. -/
def readBool (s : List Char) : Option Bool :=
  match String.ofList (Text.lower (Text.trim s)) with
  | "true" | "1" | "yes" => some true
  | "false" | "0" | "no" => some false
  | _ => none

/-- The value of a run of ASCII digits; a text without digits or with anything else has none. -/
def readDigits (s : List Char) : Option Nat :=
  if s ≠ [] ∧ s.all Char.isDigit then
    some (s.foldl (fun n c => 10 * n + (c.toNat - '0'.toNat)) 0)
  else
    none

/-- A sign and digits: a plus sign may stand in front, and a minus sign too where `lowest` admits
negative numbers at all. -/
def readSigned (lowest : Int) (s : List Char) : Option Int :=
  match s with
  | '+' :: digits => (readDigits digits).map Int.ofNat
  | '-' :: digits => if lowest < 0 then (readDigits digits).map fun n => -(Int.ofNat n) else none
  | digits => (readDigits digits).map Int.ofNat

/-- A decimal integer from `lowest` to `highest`, between any blanks. -/
def readInteger (lowest highest : Int) (s : List Char) : Option Int :=
  (readSigned lowest (Text.trim s)).filter fun n => lowest ≤ n ∧ n ≤ highest

/-- The comma-separated pieces of a text, each trimmed.  Empty pieces are kept, but the empty text
has no pieces at all. -/
def readList (s : List Char) : List (List Char) :=
  if s = [] then [] else (s.splitOn ',').map Text.trim

/-! ### Reading one variable -/

/-- The text of a variable, or `default` when it is unset. -/
def stringOr (env : Environment) (name default : String) : String :=
  (env name).getD default

/-- A boolean variable, or `default` when it is unset. -/
def boolOr (env : Environment) (name : String) (default : Bool) : Except VariableError Bool :=
  match env name with
  | none => .ok default
  | some text =>
    match readBool text.toList with
    | some b => .ok b
    | none => .error (.invalidBool name text)

/-- An integer variable from `lowest` to `highest`, or `default` when it is unset. -/
def integerOr (env : Environment) (lowest highest : Int) (name : String) (default : Int) :
    Except VariableError Int :=
  match env name with
  | none => .ok default
  | some text =>
    match readInteger lowest highest text.toList with
    | some n => .ok n
    | none => .error (.invalidInteger name text)

/-- A variable that holds a natural number of the given number of bits. -/
def wordOr (env : Environment) (bits : Nat) (name : String) (default : Nat) :
    Except VariableError Nat :=
  (env.integerOr 0 (Int.pow 2 bits - 1) name default).map Int.toNat

/-- A list variable, or `default` when it is unset. -/
def listOr (env : Environment) (name : String) (default : List String) : List String :=
  match env name with
  | none => default
  | some text => (readList text.toList).map String.ofList

end Environment

end AuthGateway
