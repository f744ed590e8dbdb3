import AuthGateway.Crypto.Sha256
import AuthGateway.Encoding.Der

/-!
# RSA signatures

Signatures of the scheme `RSASSA-PKCS1-v1_5` over SHA-256.  A signature is the power of an encoded
digest modulo the key's modulus; the encoding is fixed, so a message has one valid signature.

Public keys are read strictly: a sequence of exactly two positive integers in their shortest form.
Keys outside the sizes that are fit for use are readable, but verify nothing.
-/

namespace AuthGateway.Rsa

/-! ### Numbers and bytes -/

/-- A number in a given count of bytes, most significant first. -/
def bytesOfNat (count n : Nat) : Bytes :=
  ((List.range count).map fun i => (n / Nat.pow 256 i).toUInt8).reverse

/-- The count of bits of a number. -/
def bitLength (n : Nat) : Nat :=
  if n = 0 then 0 else n.log2 + 1

/-- The count of bytes of a number. -/
def byteLength (n : Nat) : Nat :=
  (bitLength n + 7) / 8

/-- `base ^ exponent` modulo `modulus`, by squaring, for exponents of at most `fuel` bits. -/
def powModFuel (modulus : Nat) : Nat → Nat → Nat → Nat
  | 0, _, _ => 1 % modulus
  | fuel + 1, base, exponent =>
    if exponent = 0 then 1 % modulus
    else
      let square := powModFuel modulus fuel (base * base % modulus) (exponent / 2)
      if exponent % 2 = 1 then base * square % modulus else square

/-- `base ^ exponent` modulo `modulus`. -/
def powMod (base exponent modulus : Nat) : Nat :=
  powModFuel modulus (bitLength exponent) (base % modulus) exponent

/-! ### Encoding a digest -/

/-- What precedes a SHA-256 digest: its algorithm and its length. -/
def digestHeader : Bytes :=
  [0x30, 0x31, 0x30, 0x0d, 0x06, 0x09, 0x60, 0x86, 0x48, 0x01, 0x65, 0x03, 0x04, 0x02, 0x01, 0x05,
   0x00, 0x04, 0x20]

/-- The encoded digest of a message in a given count of bytes. -/
def encodedMessage (count : Nat) (message : Bytes) : Bytes :=
  let tail := digestHeader ++ Sha256.digest message
  0x00 :: 0x01 :: List.replicate (count - tail.length - 3) 0xFF ++ 0x00 :: tail

/-! ### Keys -/

/-- A public key. -/
structure PublicKey where
  modulus : Nat
  exponent : Nat
  deriving DecidableEq, Repr

namespace PublicKey

/-- A length in its shortest form, of at most two bytes, and what follows it. -/
def strictLength? : Bytes → Option (Nat × Bytes)
  | 0x81 :: a :: s => if 128 ≤ a.toNat then some (a.toNat, s) else none
  | 0x82 :: a :: b :: s => if a = 0 then none else some (a.toNat * 256 + b.toNat, s)
  | a :: s => if a.toNat < 128 then some (a.toNat, s) else none
  | [] => none

/-- The content of a block with a given tag, and what follows it. -/
def content? (tag : UInt8) : Bytes → Option (Bytes × Bytes)
  | [] => none
  | t :: s =>
    if t = tag then
      match strictLength? s with
      | some (n, s) => if n ≤ s.length then some (s.take n, s.drop n) else none
      | none => none
    else none

/-- A positive number in its shortest form. -/
def positive? : Bytes → Option Nat
  | [] => none
  | 0x00 :: b :: s => if b.toNat < 128 then none else some (Der.natOfBytes (b :: s))
  | b :: s => if b = 0 ∨ 128 ≤ b.toNat then none else some (Der.natOfBytes (b :: s))

/-- The key of a text: a sequence of the modulus and the exponent. -/
def ofDer? (s : Bytes) : Option PublicKey := do
  let (body, rest) ← content? 0x30 s
  guard (rest = [])
  let (modulus, s) ← content? 0x02 body
  let (exponent, rest) ← content? 0x02 s
  guard (rest = [])
  return ⟨← positive? modulus, ← positive? exponent⟩

/-- Whether a key is fit for use: a modulus of 2048 to 8192 bits, counted in whole bytes at the
lower end, and an exponent from 3 to 33 bits, both odd. -/
def isFit (k : PublicKey) : Bool :=
  256 ≤ byteLength k.modulus && bitLength k.modulus ≤ 8192 && k.modulus % 2 = 1
    && 3 ≤ k.exponent && k.exponent < Nat.pow 2 33 && k.exponent % 2 = 1

/-- Whether a signature of a message is valid. -/
def verify (k : PublicKey) (message signature : Bytes) : Bool :=
  let count := byteLength k.modulus
  let s := Der.natOfBytes signature
  k.isFit && signature.length = count && s < k.modulus
    && bytesOfNat count (powMod s k.exponent k.modulus) = encodedMessage count message

end PublicKey

/-- A private key. -/
structure PrivateKey where
  modulus : Nat
  exponent : Nat
  deriving DecidableEq, Repr

namespace PrivateKey

/-- The key of a text: a sequence of integers, the modulus the second and the private exponent the
fourth of them. -/
def ofDer? (s : Bytes) : Option PrivateKey :=
  match Der.read s with
  | some [.sequence (.integer _ :: .integer n :: .integer _ :: .integer d :: _)] =>
    some ⟨Der.natOfBytes n, Der.natOfBytes d⟩
  | _ => none

/-- The signature of a message. -/
def sign (k : PrivateKey) (message : Bytes) : Bytes :=
  let count := byteLength k.modulus
  bytesOfNat count
    (powMod (Der.natOfBytes (encodedMessage count message)) k.exponent k.modulus)

end PrivateKey

end AuthGateway.Rsa
