import AuthGateway.Crypto.Sha256

/-!
# Lengths of digests

A digest has 32 bytes whatever the message (`length_digest`), and so has an authentication code
(`length_sha256`).
-/

namespace AuthGateway

namespace Sha256

/-- A digest has 32 bytes. -/
theorem length_digest (message : Bytes) : (digest message).length = 32 := by
  rw [digest]
  rfl

end Sha256

namespace Hmac

/-- An authentication code has 32 bytes. -/
theorem length_sha256 (key message : Bytes) : (sha256 key message).length = 32 :=
  Sha256.length_digest _

/-- There is no empty authentication code. -/
theorem sha256_ne_nil (key message : Bytes) : sha256 key message ≠ [] := by
  intro h
  have hlength := length_sha256 key message
  rw [h] at hlength
  exact absurd hlength (by decide)

end Hmac

end AuthGateway
