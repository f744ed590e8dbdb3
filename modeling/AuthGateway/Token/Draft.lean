import AuthGateway.Crypto.Rsa
import AuthGateway.Crypto.Sha256
import AuthGateway.Encoding.Pem
import AuthGateway.Json.Printer
import AuthGateway.Token.SigningMethod
import AuthGateway.Token.Size

/-!
# Issuing tokens

A draft collects claims step by step and is then signed.  It begins with a subject, the time of
issue and an expiry one hour later.
-/

namespace AuthGateway

/-- The claims of a token that is not signed yet. -/
structure TokenDraft where
  claims : Json.Members
  deriving BEq, Repr, Inhabited

/-- A change of a draft. -/
inductive TokenStep where
  /-- Name the caller. -/
  | forUser (subject : String)
  /-- List the groups of the caller. -/
  | withGroups (groups : List String)
  /-- Bind any claim. -/
  | withClaim (name : String) (value : Json)
  /-- Expire some seconds after the time of issue; negative for a token that has expired. -/
  | expiresIn (seconds : Int)
  /-- Be good from some seconds after the time of issue on. -/
  | notBeforeIn (seconds : Int)
  /-- Never expire. -/
  | withoutExpiry
  deriving BEq, Repr, Inhabited

namespace TokenDraft

/-- A time in seconds since the epoch, as a claim. -/
def time (t : Int) : Json :=
  .number (.integer t)

/-- Bind a claim. -/
def bind (d : TokenDraft) (name : String) (value : Json) : TokenDraft :=
  ⟨d.claims.insert name value⟩

/-- The draft that all others begin with. -/
def start (now : Int) : TokenDraft :=
  ((bind ⟨[]⟩ "sub" (.string "test-subject")).bind "iat" (time now)).bind "exp" (time (now + 3600))

/-- Make one change. -/
def apply (now : Int) (d : TokenDraft) : TokenStep → TokenDraft
  | .forUser subject => d.bind "sub" (.string subject)
  | .withGroups groups => d.bind "groups" (.array (groups.map .string))
  | .withClaim name value => d.bind name value
  | .expiresIn seconds => d.bind "exp" (time (now + seconds))
  | .notBeforeIn seconds => d.bind "nbf" (time (now + seconds))
  | .withoutExpiry => ⟨d.claims.erase "exp"⟩

/-- Make changes one after another. -/
def build (now : Int) (steps : List TokenStep) : TokenDraft :=
  steps.foldl (apply now) (start now)

/-- The header of a token. -/
def header (method : SigningMethod) : Json :=
  .object [("typ", .string "JWT"), ("alg", .string method.label)]

/-- A segment for a JSON value. -/
def segmentOf (v : Json) : List Char :=
  CompactToken.segment (Utf8.encode v.print)

/-- The token of a draft, given how to sign. -/
def signed (d : TokenDraft) (method : SigningMethod) (sign : Bytes → Bytes) : CompactToken :=
  let unsigned : CompactToken := ⟨segmentOf (header method), segmentOf (.object d.claims), []⟩
  { unsigned with signature := CompactToken.segment (sign unsigned.signedBytes) }

/-- Sign with a shared secret. -/
def signShared (d : TokenDraft) (secret : String) : CompactToken :=
  d.signed .hs256 (Hmac.sha256 (Utf8.encode secret))

/-- Sign with an RSA key. -/
def signRsa (d : TokenDraft) (key : Rsa.PrivateKey) : CompactToken :=
  d.signed .rs256 key.sign

end TokenDraft

/-- The RSA key of a PEM document. -/
def Rsa.PrivateKey.ofPem? (text : String) : Option Rsa.PrivateKey :=
  (Pem.read text.toList).bind fun d =>
    if d.label = "RSA PRIVATE KEY".toList then Rsa.PrivateKey.ofDer? d.content else none

end AuthGateway
