import AuthGateway.Proofs.Json.RoundTrip
import AuthGateway.Proofs.Token.Soundness
import AuthGateway.Token.Draft

/-!
# Issued tokens are judged by their claims

A token that is issued with a shared secret is judged by a verifier over the same secret as if its
claims had been handed over directly: `Claims.verdict` says what the verdict is, in terms of the
integers under `exp`, `nbf` and `iat`, and `verify_signShared` that the verifier gives it.

The steps of a draft keep its claims in order (`isSorted_apply`, `isSorted_build`), so the bindings
that are read from the payload are the claims as they stand (`Payload.read_print`).  The header
reads as itself and the signature is the one that is computed, which opens the token
(`open?_signShared`).  What is left are the three times (`checkTimes_payload`).
-/

namespace AuthGateway

/-! ### Claims and their times -/

/-- The integer that a value is. -/
def Json.integer? : Json → Option Int
  | .number (.integer n) => some n
  | _ => none

/-- What is bound to a name is among the members. -/
theorem Json.Members.mem_of_get? {m : Json.Members} {name : String} {v : Json}
    (h : m.get? name = some v) : (name, v) ∈ m := by
  obtain ⟨before, after, rfl, -⟩ := List.lookup_eq_some_iff.1 h
  simp

namespace Claims

/-- The integer under a name. -/
def integer? (c : Claims) (name : String) : Option Int :=
  (c.get? name).bind Json.integer?

/-- What claims amount to at a time: too old, too new, issued later, or good, in this order. -/
def verdict (c : Claims) (skew : Nat) (now : Int) : Except VerifyError Claims :=
  if (c.integer? "exp").any (· + skew < now) then .error .expired
  else if (c.integer? "nbf").any (now + skew < ·) then .error .notYetValid
  else if (c.integer? "iat").any (now + skew < ·) then .error .issuedInFuture
  else .ok c

/-- Whether a claim is a natural number, if it is there. -/
def IsNatural (c : Claims) (name : String) : Prop :=
  ∀ v, c.get? name = some v → ∃ n : Nat, v = .ofNat n

/-- Claims that a token keeps exactly: values of integers of 64 bits nested at most 100 deep, a
subject that is a string if there is one, and bounds on the time that are natural numbers if there
are any. -/
structure IsRegular (c : Claims) : Prop where
  exact : ∀ b ∈ c.members, b.2.IsExact 100
  subject : ∀ v, c.get? "sub" = some v → ∃ s, v = .string s
  expires : c.IsNatural "exp"
  notBefore : c.IsNatural "nbf"

/-- The payload that claims make up. -/
def payload (c : Claims) : Payload :=
  ⟨c, (c.integer? "exp").map Int.toNat, (c.integer? "nbf").map Int.toNat⟩

/-- A natural number is no negative integer. -/
theorem IsNatural.nonneg {c : Claims} {name : String} (h : c.IsNatural name) {n : Int}
    (hn : c.integer? name = some n) : 0 ≤ n := by
  obtain ⟨v, hv, hinteger⟩ := Option.bind_eq_some_iff.1 hn
  obtain ⟨k, rfl⟩ := h v hv
  obtain rfl : (k : Int) = n := Option.some.inj hinteger
  exact Int.natCast_nonneg k

end Claims

/-! ### Reading the payload -/

namespace Payload

/-- A natural number sets the bound that it is, and nothing sets none. -/
theorem bound?_members {c : Claims} {name : String} (h : c.IsNatural name) :
    bound? c.members name = some ((c.integer? name).map Int.toNat) := by
  have hlookup : c.members.lookup name = c.get? name := rfl
  rw [bound?, hlookup, Claims.integer?]
  cases hv : c.get? name with
  | none => rfl
  | some v =>
    obtain ⟨n, rfl⟩ := h v hv
    rfl

/-- Regular claims in order make up their payload. -/
theorem ofBindings_members {c : Claims} (hsorted : c.members.IsSorted) (h : c.IsRegular) :
    ofBindings c.members = some c.payload := by
  have hsingle : registered.all (isSingle c.members) = true := by
    rw [List.all_eq_true]
    intro name _
    exact decide_eq_true (Json.Members.length_filter_name_le hsorted name)
  have hsubject : isSubject c.members = true := by
    have hlookup : c.members.lookup "sub" = c.get? "sub" := rfl
    rw [isSubject, hlookup]
    cases hv : c.get? "sub" with
    | none => rfl
    | some v =>
      obtain ⟨s, rfl⟩ := h.subject v hv
      rfl
  rw [ofBindings, hsingle, hsubject, bound?_members h.expires, bound?_members h.notBefore,
    Json.Members.ofList_of_isSorted hsorted]
  rfl

/-- Regular claims in order read back from their text. -/
theorem read_print {c : Claims} (hsorted : c.members.IsSorted) (h : c.IsRegular) :
    read (Utf8.encode c.toJson.print) = some c.payload := by
  obtain ⟨raws, hread, hraws⟩ := Json.read_printObject (by decide) h.exact
  rw [read, Claims.toJson, hread]
  show (Json.ofRawMembers raws).bind ofBindings = _
  rw [hraws, Option.bind_some, ofBindings_members hsorted h]

end Payload

/-! ### Checking the times -/

namespace Verifier

/-- The checks of the time in their order. -/
theorem checkTimes_eq (skew : Nat) (now : Int) (p : Payload) :
    checkTimes skew now p = if isExpired skew now p.expires then .error .expired
      else if isEarly skew now p.notBefore then .error .notYetValid
      else if isFuture skew now p.claims.issuedAt then .error .issuedInFuture
      else .ok p.claims := by
  rw [checkTimes]
  cases isExpired skew now p.expires
  · cases isEarly skew now p.notBefore
    · cases isFuture skew now p.claims.issuedAt <;> rfl
    · rfl
  · rfl

theorem isExpired_payload {skew : Nat} {now : Int} {c : Claims} (h : c.IsNatural "exp") :
    isExpired skew now c.payload.expires = (c.integer? "exp").any (· + skew < now) := by
  rw [Claims.payload]
  cases ht : c.integer? "exp" with
  | none => rfl
  | some t =>
    have hnonneg := h.nonneg ht
    rw [Option.map_some, isExpired, Option.any_some, decide_eq_decide]
    omega

theorem isEarly_payload {skew : Nat} {now : Int} {c : Claims} (h : c.IsNatural "nbf") :
    isEarly skew now c.payload.notBefore = (c.integer? "nbf").any (now + skew < ·) := by
  rw [Claims.payload]
  cases ht : c.integer? "nbf" with
  | none => rfl
  | some t =>
    have hnonneg := h.nonneg ht
    rw [Option.map_some, isEarly, Option.any_some, decide_eq_decide]
    omega

/-- A time of issue that is cut off at the end of 64-bit time is later than a clock before it. -/
theorem isFuture_issuedAt {skew : Nat} {now : Int} {c : Claims} (h : c.IsRegular)
    (hclock : now + skew < 2 ^ 63 - 1) :
    isFuture skew now c.issuedAt = (c.integer? "iat").any (now + skew < ·) := by
  rw [Claims.issuedAt, Claims.integer?]
  cases hv : c.get? "iat" with
  | none => rfl
  | some v =>
    -- exact values are no floating point numbers, and other shapes are no times
    cases h.exact _ (Json.Members.mem_of_get? hv) with
    | @integer _ n hlo hhi =>
      show decide (now + skew < Claims.saturate n) = decide (now + skew < n)
      rw [decide_eq_decide, Claims.saturate]
      omega
    | null => rfl
    | bool b => rfl
    | string s => rfl
    | array _ => rfl
    | object _ _ => rfl

/-- The checks of the time give the verdict on regular claims. -/
theorem checkTimes_payload {c : Claims} (h : c.IsRegular) {skew : Nat} {now : Int}
    (hclock : now + skew < 2 ^ 63 - 1) : checkTimes skew now c.payload = c.verdict skew now := by
  rw [checkTimes_eq, isExpired_payload h.expires, isEarly_payload h.notBefore, Claims.verdict]
  show (if _ then _ else if _ then _ else if isFuture skew now c.issuedAt then _ else _) = _
  rw [isFuture_issuedAt h hclock]
  rfl

end Verifier

/-! ### Issued tokens -/

namespace TokenDraft

/-- Every change keeps the claims in order. -/
theorem isSorted_apply (now : Int) {d : TokenDraft} (h : d.claims.IsSorted) (step : TokenStep) :
    (d.apply now step).claims.IsSorted := by
  cases step with
  | forUser subject => exact Json.Members.isSorted_insert _ _ h
  | withGroups groups => exact Json.Members.isSorted_insert _ _ h
  | withClaim name value => exact Json.Members.isSorted_insert _ _ h
  | expiresIn seconds => exact Json.Members.isSorted_insert _ _ h
  | notBeforeIn seconds => exact Json.Members.isSorted_insert _ _ h
  | withoutExpiry => exact Json.Members.isSorted_erase _ h

/-- The claims of a draft are in order, whatever the changes. -/
theorem isSorted_build (now : Int) (steps : List TokenStep) :
    (build now steps).claims.IsSorted := by
  have hstart : (start now).claims.IsSorted :=
    Json.Members.isSorted_insert _ _ (Json.Members.isSorted_insert _ _
      (Json.Members.isSorted_insert _ _ List.Pairwise.nil))
  rw [build]
  generalize start now = d at hstart ⊢
  induction steps generalizing d with
  | nil => exact hstart
  | cons step steps ih => exact ih (d.apply now step) (isSorted_apply now hstart step)

/-- The header of an issued token names its method. -/
theorem read_header : TokenHeader.read (Utf8.encode (header .hs256).print) = some .hs256 := by
  rfl

/-- The segment of an object is not empty. -/
theorem segmentOf_object_ne_nil (members : Json.Members) : segmentOf (.object members) ≠ [] := by
  refine CompactToken.segment_ne_nil ?_
  rw [Json.print, Utf8.encode_ofList, Json.bytesOf_object]
  exact List.cons_ne_nil _ _

/-- An issued token has three segments, none of them empty. -/
theorem splitOn_signShared (d : TokenDraft) (secret : String) :
    ∃ h p s, (d.signShared secret).toChars.splitOn '.' = [h, p, s]
      ∧ h ≠ [] ∧ p ≠ [] ∧ s ≠ [] := by
  refine ⟨_, _, _, CompactToken.splitOn_toChars ?_ ?_ ?_, ?_, ?_, ?_⟩
  · exact CompactToken.dot_not_mem_segment _
  · exact CompactToken.dot_not_mem_segment _
  · exact CompactToken.dot_not_mem_segment _
  · exact segmentOf_object_ne_nil _
  · exact segmentOf_object_ne_nil _
  · exact CompactToken.segment_ne_nil (Hmac.sha256_ne_nil _ _)

/-- An issued token opens under its secret. -/
theorem open?_signShared {d : TokenDraft} (hsorted : d.claims.IsSorted)
    (h : Claims.IsRegular ⟨d.claims⟩) (secret : String) :
    Verifier.open? .hs256 (.shared (Utf8.encode secret)) (d.signShared secret).toChars
      = .ok (Claims.payload ⟨d.claims⟩) := by
  have htoken : CompactToken.ofChars? (d.signShared secret).toChars = some (d.signShared secret) :=
    CompactToken.ofChars?_eq_some_iff.2
      ⟨CompactToken.dot_not_mem_segment _, CompactToken.dot_not_mem_segment _, rfl⟩
  have hpayload : Payload.read (Utf8.encode (Json.object d.claims).print)
      = some (Claims.payload ⟨d.claims⟩) :=
    Payload.read_print (c := ⟨d.claims⟩) hsorted h
  refine Verifier.open?_eq_ok_iff.2 ⟨d.signShared secret, Utf8.encode (header .hs256).print,
    Utf8.encode (Json.object d.claims).print, htoken, ?_, ?_, ?_, ?_, hpayload⟩
  · rfl
  · exact read_header
  · rfl
  · rfl

end TokenDraft

namespace Verifier

/-- An issued token has three segments, none of them empty; and when it is small enough and its
claims are regular, a verifier over the same secret gives the verdict on the claims.  Times have 64
bits and a sign: the clock may show any time that leaves room for the skew. -/
theorem verify_signShared (issued : Int) (steps : List TokenStep) (secret : String) :
    (∃ h p s, ((TokenDraft.build issued steps).signShared secret).toChars.splitOn '.' = [h, p, s]
      ∧ h ≠ [] ∧ p ≠ [] ∧ s ≠ [])
    ∧ ∀ (skew : Nat) (debug : Bool) (now : Int),
      Claims.IsRegular ⟨(TokenDraft.build issued steps).claims⟩ →
      (String.ofList
        ((TokenDraft.build issued steps).signShared secret).toChars).utf8ByteSize ≤ 8192 →
      now + skew < 2 ^ 63 - 1 →
      (ofSecret .hs256 secret skew debug).verify now
          (String.ofList ((TokenDraft.build issued steps).signShared secret).toChars)
        = Claims.verdict ⟨(TokenDraft.build issued steps).claims⟩ skew now := by
  refine ⟨TokenDraft.splitOn_signShared _ secret, ?_⟩
  intro skew debug now hregular hsize hclock
  have hsorted := TokenDraft.isSorted_build issued steps
  -- all that matters of the steps is that they keep the claims in order
  generalize TokenDraft.build issued steps = d at hregular hsize hsorted ⊢
  have hlimit : Token.withinLimit (String.ofList (d.signShared secret).toChars) = true :=
    decide_eq_true hsize
  have hkey : (ofSecret .hs256 secret skew debug).keys.key
      = .ok (.shared (Utf8.encode secret)) := rfl
  rw [verify_of_key hkey, hlimit, String.toList_ofList]
  show (open? .hs256 (.shared (Utf8.encode secret)) (d.signShared secret).toChars >>= _) = _
  rw [TokenDraft.open?_signShared hsorted hregular]
  exact checkTimes_payload hregular hclock

/-- Steps for a caller with quotes and a letter outside ASCII in its name. -/
def quotedSteps : List TokenStep :=
  [.forUser "\"é\"", .withGroups ["admin"], .notBeforeIn 0]

/-- The claims of a token come back. -/
theorem verify_signShared_quoted :
    Claims.IsRegular ⟨(TokenDraft.build 1000 quotedSteps).claims⟩
      ∧ (String.ofList
        ((TokenDraft.build 1000 quotedSteps).signShared "secret").toChars).utf8ByteSize ≤ 8192
      ∧ (2000 : Int) + (60 : Nat) < 2 ^ 63 - 1
      ∧ (ofSecret .hs256 "secret" 60 false).verify 2000
          (String.ofList ((TokenDraft.build 1000 quotedSteps).signShared "secret").toChars)
        = .ok ⟨[("exp", .ofNat 4600), ("groups", .array [.string "admin"]), ("iat", .ofNat 1000),
            ("nbf", .ofNat 1000), ("sub", .string "\"é\"")]⟩ := by
  have hregular : Claims.IsRegular ⟨(TokenDraft.build 1000 quotedSteps).claims⟩ := by
    refine ⟨?_, ?_, ?_, ?_⟩
    · intro b hb
      have hmembers : b ∈ [("exp", Json.ofNat 4600), ("groups", .array [.string "admin"]),
        ("iat", .ofNat 1000), ("nbf", .ofNat 1000), ("sub", .string "\"é\"")] := hb
      simp only [List.mem_cons, List.not_mem_nil, or_false] at hmembers
      rcases hmembers with rfl | rfl | rfl | rfl | rfl
      · exact .integer (by decide) (by decide)
      · exact .array (by simp [Json.IsExact.string])
      · exact .integer (by decide) (by decide)
      · exact .integer (by decide) (by decide)
      · exact .string _
    · intro v hv
      exact ⟨_, (Option.some.inj hv).symm⟩
    · intro v hv
      exact ⟨4600, (Option.some.inj hv).symm⟩
    · intro v hv
      exact ⟨1000, (Option.some.inj hv).symm⟩
  have hsize : (String.ofList
      ((TokenDraft.build 1000 quotedSteps).signShared "secret").toChars).utf8ByteSize ≤ 8192 := by
    decide +kernel
  refine ⟨hregular, hsize, by decide, ?_⟩
  rw [(verify_signShared 1000 quotedSteps "secret").2 60 false 2000 hregular hsize (by decide)]
  rfl

end Verifier

end AuthGateway
