import AuthGateway.Proofs.Token.Verification
import AuthGateway.Token.Verifier
import Mathlib.Logic.Basic
import Mathlib.Tactic.SplitIfs

/-!
# With and without a key

Whether there is a key is settled once, when the secret is read.  Without one a verifier fails in
the same way for every token, before it looks at anything else; with one it never fails in that way,
as opening a token and checking its time have errors of their own (`verify_eq_keyUnavailable_iff`).
So key material either fails always or fails never (`KeyMaterial.failsAlways_xor_failsNever`), and
the log tells which (`LogEntry.TellsOfNoKey`).
-/

namespace AuthGateway

/-- Whether an entry tells that a token was verified without a key: it is an error of the verifier,
or names that error. -/
def LogEntry.TellsOfNoKey (entry : LogEntry) : Prop :=
  entry.target = "edge.auth.jwt" ∧ (entry.level = .error
    ∨ ("error", LogValue.text VerifyError.keyUnavailable.message) ∈ entry.fields)

instance (entry : LogEntry) : Decidable entry.TellsOfNoKey :=
  inferInstanceAs (Decidable (_ ∧ (_ ∨ _)))

namespace Verifier

variable {v : Verifier} {now : Int} {token : String}

/-- The entry logged about a verification without a key. -/
def noKeyEntry (cause : KeyError) : LogEntry :=
  { level := .error
    target := "edge.auth.jwt"
    message := "Verification attempted without a usable key"
    fields := [("error", .text cause.message)] }

/-- A verifier fails for want of a key exactly when it has none. -/
theorem verify_eq_keyUnavailable_iff :
    v.verify now token = .error .keyUnavailable ↔ ∃ cause, v.keys.key = .error cause := by
  constructor
  · intro h
    cases hkey : v.keys.key with
    | error cause => exact ⟨cause, rfl⟩
    | ok key =>
      rw [verify_of_key hkey] at h
      simp only [bind_eq_error_iff, require_eq_error_iff] at h
      rcases h with ⟨-, h⟩ | ⟨_, -, h | ⟨p, -, h⟩⟩
      -- neither the size nor the opening nor the time fails for want of a key
      · cases h
      · rcases open?_eq_error h with h | h <;> cases h
      · rcases checkTimes_eq_error h with h | h | h <;> cases h
  · rintro ⟨cause, hkey⟩
    exact verify_of_keyError hkey

/-- Without a key one error is logged, whatever the token and the settings. -/
theorem log_of_keyError {cause : KeyError} (hkey : v.keys.key = .error cause)
    (outcome : Except VerifyError Claims) : v.log outcome = [noKeyEntry cause] := by
  simp only [log, hkey]
  rfl

/-- The message of an error tells that there is no key only where that is the error. -/
theorem message_eq_keyUnavailable_iff {e : VerifyError} :
    e.message = VerifyError.keyUnavailable.message ↔ e = .keyUnavailable := by
  cases e <;> decide

/-- With a key nothing is logged that tells of none. -/
theorem not_tellsOfNoKey_of_key {key : VerifyingKey} (hkey : v.keys.key = .ok key)
    {entry : LogEntry} (hentry : entry ∈ v.judge.log now token) : ¬ entry.TellsOfNoKey := by
  simp only [judge, log, hkey] at hentry
  cases houtcome : v.verify now token with
  | ok claims =>
    rw [houtcome] at hentry
    exact absurd hentry List.not_mem_nil
  | error e =>
    have he : e ≠ .keyUnavailable := by
      rintro rfl
      obtain ⟨cause, hcause⟩ := verify_eq_keyUnavailable_iff.1 houtcome
      rw [hkey] at hcause
      cases hcause
    rw [houtcome] at hentry
    dsimp only at hentry
    split_ifs at hentry
    · obtain rfl := List.mem_singleton.1 hentry
      rintro ⟨-, hlevel | hmessage⟩
      · cases hlevel
      · obtain h := (Prod.mk.inj (List.mem_singleton.1 hmessage)).2
        exact he (message_eq_keyUnavailable_iff.1 (LogValue.text.inj h).symm)
    · exact absurd hentry List.not_mem_nil

end Verifier

namespace KeyMaterial

/-- Whether there is no key, and for this reason every verification fails and logs one error. -/
def FailsAlways (k : KeyMaterial) : Prop :=
  ∃ cause, k.key = .error cause ∧ ∀ skew debug now token,
    (Verifier.mk k skew debug).judge.verdict now token = .error .keyUnavailable
      ∧ (Verifier.mk k skew debug).judge.log now token = [Verifier.noKeyEntry cause]

/-- Whether there is a key, no verification fails for want of one, and none tells so. -/
def FailsNever (k : KeyMaterial) : Prop :=
  ∃ key, k.key = .ok key ∧ ∀ skew debug now token,
    (Verifier.mk k skew debug).judge.verdict now token ≠ .error .keyUnavailable
      ∧ ∀ entry ∈ (Verifier.mk k skew debug).judge.log now token, ¬ entry.TellsOfNoKey

theorem failsAlways_iff {k : KeyMaterial} : k.FailsAlways ↔ ∃ cause, k.key = .error cause := by
  constructor
  · rintro ⟨cause, hkey, -⟩
    exact ⟨cause, hkey⟩
  · rintro ⟨cause, hkey⟩
    exact ⟨cause, hkey, fun skew debug now token =>
      ⟨Verifier.verify_of_keyError hkey, Verifier.log_of_keyError hkey _⟩⟩

theorem failsNever_iff {k : KeyMaterial} : k.FailsNever ↔ ∃ key, k.key = .ok key := by
  constructor
  · rintro ⟨key, hkey, -⟩
    exact ⟨key, hkey⟩
  · rintro ⟨key, hkey⟩
    refine ⟨key, hkey, fun skew debug now token =>
      ⟨fun hverdict => ?_, fun _ => Verifier.not_tellsOfNoKey_of_key hkey⟩⟩
    obtain ⟨cause, hcause⟩ := Verifier.verify_eq_keyUnavailable_iff.1 hverdict
    rw [hkey] at hcause
    cases hcause

/-- Key material fails always or never. -/
theorem failsAlways_xor_failsNever (k : KeyMaterial) : Xor k.FailsAlways k.FailsNever := by
  rw [failsAlways_iff, failsNever_iff]
  cases k.key with
  | error cause => exact Or.inl ⟨⟨cause, rfl⟩, by simp⟩
  | ok key => exact Or.inr ⟨⟨key, rfl⟩, by simp⟩

end KeyMaterial

end AuthGateway
