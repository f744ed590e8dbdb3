import AuthGateway.Crypto.Rsa
import AuthGateway.Crypto.Sha256
import AuthGateway.Encoding.Pem
import AuthGateway.Settings.Describe
import AuthGateway.Token.Header
import AuthGateway.Token.Size

/-!
# Keys

The configured secret becomes a key once, when the gateway starts.  A shared secret is used as it
stands, whatever its bytes.  An RSA key is taken from a PEM document; a secret that holds no such
key leaves the key material unusable, and the reason is kept.
-/

namespace AuthGateway

/-- Why there is no key. -/
inductive KeyError where
  /-- The secret holds no PEM document that says it is an RSA key. -/
  | notAnRsaKey
  /-- The document says it is an RSA key, but it wraps none. -/
  | noKeyInside
  deriving DecidableEq, Repr

namespace KeyError

/-- The cause, as it is logged. -/
def cause : KeyError → String
  | .notAnRsaKey => "InvalidKeyFormat"
  | .noKeyInside => "InvalidEcdsaKey"

/-- The message shown to the operator. -/
def message (e : KeyError) : String :=
  "RS256 public key is not a valid PEM-encoded RSA key: " ++ e.cause

end KeyError

/-- A key that signatures are checked with. -/
inductive VerifyingKey where
  /-- A shared secret. -/
  | shared (secret : Bytes)
  /-- The encoding of an RSA key; it is read when a signature is checked. -/
  | rsa (der : Bytes)
  deriving DecidableEq, Repr

/-! ### Keys in PEM documents -/

namespace RsaDocument

/-- The families of keys that an object identifier can name. -/
inductive Family where
  | rsa
  | elliptic
  | edwards
  deriving DecidableEq, Repr

/-- The family that an object identifier names. -/
def familyOf (arcs : List Nat) : Option Family :=
  if arcs = [1, 2, 840, 113549, 1, 1, 1] then some .rsa
  else if arcs = [1, 2, 840, 10045, 2, 1] then some .elliptic
  else if arcs = [1, 3, 101, 112] then some .edwards
  else none

mutual

/-- The first family named in a block, sequences searched depth first. -/
def family? : Der.Block → Option Family
  | .sequence items => familyIn? items
  | .identifier arcs => familyOf arcs
  | _ => none

/-- The first family named in some blocks. -/
def familyIn? : List Der.Block → Option Family
  | [] => none
  | b :: rest => (family? b).or (familyIn? rest)

end

mutual

/-- The first bit string or octet string of a block, sequences searched depth first. -/
def string? : Der.Block → Option Bytes
  | .sequence items => stringIn? items
  | .bits content => some content
  | .octets content => some content
  | _ => none

/-- The first bit string or octet string of some blocks. -/
def stringIn? : List Der.Block → Option Bytes
  | [] => none
  | b :: rest => (string? b).or (stringIn? rest)

end

/-- The encoding of the key in a document.  Documents of the RSA labels are the key itself; the
general labels name the family of the key and wrap its encoding. -/
def keyBytes (d : Pem.Document) : Except KeyError Bytes :=
  match Der.read d.content with
  | none => .error .notAnRsaKey
  | some blocks =>
    match String.ofList d.label with
    | "RSA PUBLIC KEY" | "RSA PRIVATE KEY" => .ok d.content
    | "PUBLIC KEY" | "PRIVATE KEY" | "CERTIFICATE" =>
      if familyIn? blocks = some .rsa then
        match stringIn? blocks with
        | some key => .ok key
        | none => .error .noKeyInside
      else .error .notAnRsaKey
    | _ => .error .notAnRsaKey

/-- The encoding of the key in a text that holds a document. -/
def read (s : String) : Except KeyError Bytes :=
  match Pem.read s.toList with
  | some d => keyBytes d
  | none => .error .notAnRsaKey

end RsaDocument

/-! ### Key material -/

/-- A signing method and its key, or the reason why there is none. -/
structure KeyMaterial where
  method : SigningMethod
  key : Except KeyError VerifyingKey

namespace KeyMaterial

/-- The key that a secret holds for a method. -/
def resolve (method : SigningMethod) (secret : String) : KeyMaterial :=
  ⟨method,
    match method with
    | .hs256 => .ok (.shared (Utf8.encode secret))
    | .rs256 => (RsaDocument.read secret).map .rsa⟩

/-- Whether there is a key. -/
def isUsable (k : KeyMaterial) : Bool :=
  k.key.isOk

/-- The entry logged when there is no key. -/
def resolutionLog (k : KeyMaterial) : List LogEntry :=
  match k.key with
  | .ok _ => []
  | .error e =>
    [{ level := .error
       target := "edge.auth.keys"
       message := "Failed to parse RS256 public key"
       fields := [("error", .text e.cause)] }]

/-- A description that shows nothing of the key. -/
def describe (k : KeyMaterial) : String :=
  Text.described "KeyMaterial"
    [("method", k.method.describe), ("usable", toString k.isUsable)]

end KeyMaterial

/-- The algorithm of a method. -/
def SigningMethod.algorithm : SigningMethod → Algorithm
  | .hs256 => .hs256
  | .rs256 => .rs256

/-- The outcome of checking a signature. -/
inductive SignatureCheck where
  | valid
  | invalid
  /-- The signature is not even the text of some bytes. -/
  | unreadable
  deriving DecidableEq, Repr

/-- Check the signature of a token.  With a shared secret the signature's text is compared with the
text of the authentication code; it is never decoded. -/
def VerifyingKey.check (k : VerifyingKey) (t : CompactToken) : SignatureCheck :=
  match k with
  | .shared secret =>
    if t.signature = CompactToken.segment (Hmac.sha256 secret t.signedBytes) then .valid
    else .invalid
  | .rsa der =>
    match CompactToken.segmentBytes? t.signature with
    | none => .unreadable
    | some signature =>
      match Rsa.PublicKey.ofDer? der with
      | none => .invalid
      | some key => if key.verify t.signedBytes signature then .valid else .invalid

end AuthGateway
