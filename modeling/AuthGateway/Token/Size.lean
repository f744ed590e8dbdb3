import AuthGateway.Encoding.Base64
import AuthGateway.Text.Basic

/-!
# The size and the form of tokens

Tokens are measured in UTF-8 bytes before anything else looks at them.

In its compact form a token is three segments with dots between them: header, payload and signature.
What is signed is the text of the first two, with their dot.
-/

namespace AuthGateway

/-! ### Size -/

namespace Token

/-- The most bytes a token may have: eight kibibytes. -/
def maxBytes : Nat := 8192

/-- Whether a token is small enough to be looked at. -/
def withinLimit (token : String) : Bool :=
  token.utf8ByteSize ≤ maxBytes

end Token

/-! ### Compact form -/

/-- The three segments of a token. -/
structure CompactToken where
  header : List Char
  payload : List Char
  signature : List Char
  deriving DecidableEq, Repr

namespace CompactToken

/-- Cut a text at the last dot. -/
def cutAtLastDot? (s : List Char) : Option (List Char × List Char) :=
  (Text.cutAt? '.' s.reverse).map fun (after, before) => (before.reverse, after.reverse)

/-- The segments of a token, cut at its last two dots; a header with dots in it is no header. -/
def ofChars? (s : List Char) : Option CompactToken := do
  let (message, signature) ← cutAtLastDot? s
  let (header, payload) ← cutAtLastDot? message
  return ⟨header, payload, signature⟩

/-- The text that is signed. -/
def message (t : CompactToken) : List Char :=
  t.header ++ '.' :: t.payload

/-- The token as one text. -/
def toChars (t : CompactToken) : List Char :=
  t.message ++ '.' :: t.signature

/-- The bytes that are signed. -/
def signedBytes (t : CompactToken) : Bytes :=
  Utf8.encode (String.ofList t.message)

/-- A segment for some bytes. -/
def segment (s : Bytes) : List Char :=
  Base64.encode Base64.url s

/-- The bytes of a segment. -/
def segmentBytes? (s : List Char) : Option Bytes :=
  Base64.decode Base64.url s

end CompactToken

end AuthGateway
