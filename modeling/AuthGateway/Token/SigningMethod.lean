import AuthGateway.Telemetry.Log
import AuthGateway.Text.Basic
import AuthGateway.Text.Letters

/-!
# Signing methods

Tokens are signed with a shared secret (`HS256`) or with an RSA key (`RS256`).  A tag is read in any
letter case and between any blanks; a tag that names no method counts as `HS256`, with a warning.
-/

namespace AuthGateway

/-- How tokens are signed. -/
inductive SigningMethod where
  | hs256
  | rs256
  deriving DecidableEq, Repr

namespace SigningMethod

/-- The tag of a method, which is also the name of its algorithm. -/
def label : SigningMethod → String
  | .hs256 => "HS256"
  | .rs256 => "RS256"

/-- A tag as it is compared: trimmed, in capitals. -/
def normalTag (tag : String) : String :=
  String.ofList (Text.upper (Text.trim tag.toList))

/-- The method that a tag names. -/
def named? (tag : String) : Option SigningMethod :=
  [hs256, rs256].find? fun m => normalTag tag = m.label

/-- The method that a tag selects. -/
def ofTag (tag : String) : SigningMethod :=
  (named? tag).getD hs256

/-- The warning about a tag that names no method. -/
def tagLog (tag : String) : List LogEntry :=
  match named? tag with
  | some _ => []
  | none =>
    [{ level := .warn
       target := "edge.auth.keys"
       message := "Unrecognized signing method, falling back to HS256"
       fields := [("signing_method", .text (normalTag tag))] }]

end SigningMethod

end AuthGateway
