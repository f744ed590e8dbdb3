import AuthGateway.Crypto.Rsa
import AuthGateway.Proofs.Crypto.Digest
import Mathlib.Algebra.Group.Nat.Defs
import Mathlib.Data.List.Induction
import Mathlib.Tactic.SplitIfs

/-!
# What a valid RSA signature is

`Rsa.PublicKey.IsSignature` says in numbers when bytes are the signature of a message: they are as
many as the modulus has, the number they stand for is below the modulus, and its power is the number
that the encoded digest stands for.  `verify` decides it (`verify_eq_true_iff`).

Two facts carry the proof.  The power that is computed by squaring is the power (`powMod_eq`), and
bytes and numbers are inverse to each other (`natOfBytes_bytesOfNat`, `bytesOfNat_natOfBytes`), so
comparing bytes is comparing numbers.
-/

namespace AuthGateway.Rsa

open Der (natOfBytes)

/-! ### Powers -/

/-- A number is below the power of two of its count of bits. -/
theorem lt_two_pow_bitLength (n : Nat) : n < 2 ^ bitLength n := by
  rw [bitLength]
  split_ifs with h
  · omega
  · exact Nat.lt_log2_self

theorem powModFuel_eq (modulus : Nat) {fuel base exponent : Nat} (h : exponent < 2 ^ fuel) :
    powModFuel modulus fuel base exponent = base ^ exponent % modulus := by
  induction fuel generalizing base exponent with
  | zero =>
    obtain rfl : exponent = 0 := by omega
    rw [powModFuel, Nat.pow_zero]
  | succ fuel ih =>
    rw [powModFuel]
    by_cases hzero : exponent = 0
    · rw [if_pos hzero, hzero, Nat.pow_zero]
    · have hhalf : exponent / 2 < 2 ^ fuel := by
        rw [Nat.pow_succ] at h
        omega
      -- the square of the base to half the exponent, rounded down
      have hsquare : powModFuel modulus fuel (base * base % modulus) (exponent / 2)
          = base ^ (2 * (exponent / 2)) % modulus := by
        rw [ih hhalf, ← Nat.pow_mod, ← Nat.pow_two, ← Nat.pow_mul]
      rw [if_neg hzero, hsquare]
      split_ifs with hodd
      · have hexponent : exponent = 2 * (exponent / 2) + 1 := by omega
        rw [Nat.mul_mod_mod, ← Nat.pow_succ', Nat.succ_eq_add_one, ← hexponent]
      · rw [show 2 * (exponent / 2) = exponent by omega]

/-- Squaring computes the power. -/
theorem powMod_eq (base exponent modulus : Nat) :
    powMod base exponent modulus = base ^ exponent % modulus := by
  rw [powMod, powModFuel_eq modulus (lt_two_pow_bitLength exponent), ← Nat.pow_mod]

/-! ### Numbers and bytes -/

theorem natOfBytes_append_singleton (s : Bytes) (b : UInt8) :
    natOfBytes (s ++ [b]) = natOfBytes s * 256 + b.toNat := by
  rw [natOfBytes, natOfBytes, List.foldl_append]
  rfl

theorem bytesOfNat_succ (count n : Nat) :
    bytesOfNat (count + 1) n = bytesOfNat count (n / 256) ++ [n.toUInt8] := by
  rw [bytesOfNat, bytesOfNat, List.range_succ_eq_map, List.map_cons, List.reverse_cons,
    List.map_map, Nat.pow_eq, Nat.pow_zero, Nat.div_one]
  congr 3
  funext i
  show (n / 256 ^ (i + 1)).toUInt8 = (n / 256 / 256 ^ i).toUInt8
  rw [Nat.pow_succ', ← Nat.div_div_eq_div_mul]

/-- A number that fits reads back from its bytes. -/
theorem natOfBytes_bytesOfNat {count n : Nat} (h : n < 256 ^ count) :
    natOfBytes (bytesOfNat count n) = n := by
  induction count generalizing n with
  | zero =>
    obtain rfl : n = 0 := by omega
    rfl
  | succ count ih =>
    have hquotient : n / 256 < 256 ^ count := by
      rw [Nat.pow_succ] at h
      omega
    rw [bytesOfNat_succ, natOfBytes_append_singleton, ih hquotient]
    show n / 256 * 256 + n % 256 = n
    omega

/-- Bytes are those of the number they stand for. -/
theorem bytesOfNat_natOfBytes (s : Bytes) : bytesOfNat s.length (natOfBytes s) = s := by
  induction s using List.reverseRecOn with
  | nil => rfl
  | append_singleton s b ih =>
    have hb := b.toNat_lt
    -- the last byte is the remainder, the bytes before it are the quotient
    have hquotient : (natOfBytes s * 256 + b.toNat) / 256 = natOfBytes s := by omega
    have hbyte : (natOfBytes s * 256 + b.toNat).toUInt8 = b := by
      rw [← UInt8.toNat_inj]
      show (natOfBytes s * 256 + b.toNat) % 256 = b.toNat
      omega
    rw [List.length_append, List.length_singleton, bytesOfNat_succ, natOfBytes_append_singleton,
      hquotient, ih, hbyte]

/-- Comparing bytes is comparing numbers. -/
theorem bytesOfNat_eq_iff {n : Nat} {s : Bytes} (h : n < 256 ^ s.length) :
    bytesOfNat s.length n = s ↔ n = natOfBytes s := by
  constructor
  · intro heq
    rw [← heq, natOfBytes_bytesOfNat h]
  · rintro rfl
    exact bytesOfNat_natOfBytes s

/-- A number is below the power of 256 of its count of bytes. -/
theorem lt_pow_byteLength (n : Nat) : n < 256 ^ byteLength n := by
  refine Nat.lt_of_lt_of_le (lt_two_pow_bitLength n) ?_
  rw [show (256 : Nat) = 2 ^ 8 by rfl, ← Nat.pow_mul]
  refine Nat.pow_le_pow_right (by decide) ?_
  rw [byteLength]
  omega

/-! ### Signatures -/

/-- An encoded digest fills the bytes it is given. -/
theorem length_encodedMessage {count : Nat} (h : 54 ≤ count) (message : Bytes) :
    (encodedMessage count message).length = count := by
  have htail : (digestHeader ++ Sha256.digest message).length = 51 := by
    rw [List.length_append, Sha256.length_digest]
    rfl
  simp only [encodedMessage, htail, List.length_cons, List.length_append, List.length_replicate]
  omega

namespace PublicKey

/-- Whether bytes are the signature of a message under a key that is fit for use. -/
structure IsSignature (k : PublicKey) (message signature : Bytes) : Prop where
  fit : k.isFit
  length : signature.length = byteLength k.modulus
  inRange : natOfBytes signature < k.modulus
  power : natOfBytes signature ^ k.exponent % k.modulus
    = natOfBytes (encodedMessage (byteLength k.modulus) message)

/-- Keys that are fit for use have room for an encoded digest. -/
theorem le_byteLength_of_isFit {k : PublicKey} (h : k.isFit) : 54 ≤ byteLength k.modulus := by
  simp only [isFit, Bool.and_eq_true, decide_eq_true_eq] at h
  omega

/-- Verification decides what a signature is. -/
theorem verify_eq_true_iff {k : PublicKey} {message signature : Bytes} :
    k.verify message signature = true ↔ k.IsSignature message signature := by
  have hbytes (hfit : k.isFit = true) (hs : natOfBytes signature < k.modulus) :
      bytesOfNat (byteLength k.modulus) (powMod (natOfBytes signature) k.exponent k.modulus)
          = encodedMessage (byteLength k.modulus) message
        ↔ natOfBytes signature ^ k.exponent % k.modulus
          = natOfBytes (encodedMessage (byteLength k.modulus) message) := by
    -- the power is below the modulus, so it fits the bytes of the modulus
    have hlength := length_encodedMessage (le_byteLength_of_isFit hfit) message
    have hlt : powMod (natOfBytes signature) k.exponent k.modulus
        < 256 ^ (encodedMessage (byteLength k.modulus) message).length := by
      rw [powMod_eq, hlength]
      exact Nat.lt_trans (Nat.mod_lt _ (by omega)) (lt_pow_byteLength k.modulus)
    have hiff := bytesOfNat_eq_iff hlt
    rw [hlength] at hiff
    rwa [powMod_eq] at hiff ⊢
  simp only [verify, Bool.and_eq_true, decide_eq_true_eq]
  constructor
  · rintro ⟨⟨⟨hfit, hlength⟩, hs⟩, heq⟩
    exact ⟨hfit, hlength, hs, (hbytes hfit hs).1 heq⟩
  · rintro ⟨hfit, hlength, hs, heq⟩
    exact ⟨⟨⟨hfit, hlength⟩, hs⟩, (hbytes hfit hs).2 heq⟩

end PublicKey

end AuthGateway.Rsa
