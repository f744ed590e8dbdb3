import AuthGateway.Proofs.Token.Verification

/-!
# Accepted tokens are authentic

A token that the verifier accepts consists of three segments: a header that names the configured
method and no other, a payload that is the accepted claims, and the signature of both under the
configured key (`verify_sound`).  None of this depends on the clock, so it also holds of the tokens
that are refused for a reason of time.

The proof reads the success of `open?` backwards.  Headers, payloads and signatures that read at all
are the texts of what was read, because Base64 is canonical; texts of bytes hold no dots, so there
are two dots in the token and one way to cut it (`eq_of_toChars_eq`).
-/

namespace AuthGateway

/-! ### Headers -/

namespace TokenHeader

open Json

/-- The value in a header that names the algorithm: that of the only `alg` member of an object, or
the second item of an array. -/
def algorithmValue? : Raw → Option Raw
  | .object members =>
    match (fieldsOf members).map (valuesOf · "alg") with
    | some [v] => some v
    | _ => none
  | .array (_ :: v :: _) => some v
  | _ => none

/-- Whether bytes are a JSON text whose algorithm value stands for a name. -/
def Names (s : Bytes) (name : String) : Prop :=
  ∃ raw v, Raw.read s.length s = some raw ∧ algorithmValue? raw = some v
    ∧ choice? v = some name

/-- A header names one algorithm at most. -/
theorem Names.unique {s : Bytes} {name name' : String} (h : Names s name) (h' : Names s name') :
    name = name' := by
  obtain ⟨raw, v, hread, hvalue, hname⟩ := h
  obtain ⟨raw', v', hread', hvalue', hname'⟩ := h'
  obtain rfl := Option.some.inj (hread.symm.trans hread')
  obtain rfl := Option.some.inj (hvalue.symm.trans hvalue')
  exact Option.some.inj (hname.symm.trans hname')

/-- A value names an algorithm by its label. -/
theorem choice?_of_algorithm? {v : Raw} {a : Algorithm} (h : algorithm? v = some a) :
    choice? v = some a.label := by
  obtain ⟨name, hname, ha⟩ := Option.bind_eq_some_iff.1 h
  have hlabel : a.label = name := by simpa using List.find?_some ha
  rw [hname, hlabel]

/-- What is read of a header is what it names. -/
theorem names_of_read {s : Bytes} {a : Algorithm} (h : read s = some a) : Names s a.label := by
  unfold read at h
  split at h
  · rename_i members hraw
    obtain ⟨fields, hfields, h⟩ := Option.bind_eq_some_iff.1 h
    unfold ofFields at h
    split_ifs at h
    split at h
    · rename_i v hvalues
      refine ⟨.object members, v, hraw, ?_, choice?_of_algorithm? h⟩
      rw [algorithmValue?, hfields, Option.map_some, hvalues]
    · exact absurd h (by simp)
  · rename_i items hraw
    unfold ofItems at h
    split at h
    · rename_i typ alg rest
      dsimp only at h
      split_ifs at h
      exact ⟨_, alg, hraw, rfl, choice?_of_algorithm? h⟩
    · exact absurd h (by simp)
  · exact absurd h (by simp)

end TokenHeader

/-! ### Payloads -/

/-- The claims of a payload are the JSON object that its bytes are. -/
theorem Payload.ofBytes?_of_read {s : Bytes} {p : Payload} (h : read s = some p) :
    Json.ofBytes? s = some p.claims.toJson := by
  unfold read at h
  split at h
  · rename_i members hraw
    obtain ⟨bindings, hbindings, h⟩ := Option.bind_eq_some_iff.1 h
    have hclaims : p.claims = ⟨Json.Members.ofList bindings⟩ := by
      obtain ⟨_, -, h⟩ := Option.bind_eq_some_iff.1 h
      obtain ⟨_, -, h⟩ := Option.bind_eq_some_iff.1 h
      obtain ⟨expires, -, h⟩ := Option.bind_eq_some_iff.1 h
      obtain ⟨notBefore, -, h⟩ := Option.bind_eq_some_iff.1 h
      rw [← Option.some.inj h]
    rw [Json.ofBytes?, hraw, hclaims]
    show Json.ofRaw (.object members) = _
    rw [Json.ofRaw, hbindings]
    rfl
  · exact absurd h (by simp)

/-! ### Two dots -/

/-- A text with two dots is cut in one way. -/
theorem CompactToken.eq_of_toChars_eq {t u : CompactToken} (hheader : '.' ∉ u.header)
    (hpayload : '.' ∉ u.payload) (hsignature : '.' ∉ u.signature) (h : t.toChars = u.toChars) :
    t = u := by
  have hcount := congrArg (List.count '.') h
  simp only [toChars, message, List.count_append, List.count_cons_self,
    List.count_eq_zero.2 hheader, List.count_eq_zero.2 hpayload,
    List.count_eq_zero.2 hsignature] at hcount
  -- both texts have two dots, and the dots between the segments are two already
  have hdots : '.' ∉ t.header ∧ '.' ∉ t.payload ∧ '.' ∉ t.signature := by
    refine ⟨?_, ?_, ?_⟩ <;>
    · rw [← List.count_eq_zero]
      omega
  have hpieces := congrArg (List.splitOn '.') h
  rw [splitOn_toChars hdots.1 hdots.2.1 hdots.2.2, splitOn_toChars hheader hpayload hsignature]
    at hpieces
  obtain ⟨header, payload, signature⟩ := t
  obtain ⟨header', payload', signature'⟩ := u
  simpa using hpieces

/-! ### Authentic tokens -/

/-- Whether a text is the signature of a message by a method under the key of a secret: the text of
the authentication code under the secret itself, or the text of a signature under the RSA key that
the secret holds. -/
def SigningMethod.Signs (method : SigningMethod) (secret : String) (message : Bytes)
    (signature : List Char) : Prop :=
  match method with
  | .hs256 => signature = CompactToken.segment (Hmac.sha256 (Utf8.encode secret) message)
  | .rs256 => ∃ der key s, RsaDocument.read secret = .ok der ∧ Rsa.PublicKey.ofDer? der = some key
      ∧ signature = CompactToken.segment s ∧ key.IsSignature message s

/-- Whether a token is authentic for a method and a secret, with the given segments. -/
structure IsAuthentic (method : SigningMethod) (secret token : String) (t : CompactToken) :
    Prop where
  segments : token.toList.splitOn '.' = [t.header, t.payload, t.signature]
  header : ∃ bytes, t.header = CompactToken.segment bytes
    ∧ ∀ name, TokenHeader.Names bytes name ↔ name = method.label
  signature : method.Signs secret t.signedBytes t.signature

/-- The verifier over the key that a secret holds. -/
def Verifier.ofSecret (method : SigningMethod) (secret : String) (skew : Nat) (debug : Bool) :
    Verifier :=
  ⟨KeyMaterial.resolve method secret, skew, debug⟩

/-- The label of a method is that of its algorithm. -/
theorem SigningMethod.label_algorithm (method : SigningMethod) :
    method.algorithm.label = method.label := by
  cases method <;> rfl

/-- The key of a secret signs what the secret signs. -/
theorem KeyMaterial.signs_of_resolve {method : SigningMethod} {secret : String}
    {key : VerifyingKey} (hkey : (resolve method secret).key = .ok key) {message : Bytes}
    {signature : List Char} (h : key.Signs message signature) :
    method.Signs secret message signature := by
  cases method with
  | hs256 =>
    obtain rfl := Except.ok.inj hkey
    exact h
  | rs256 =>
    cases hder : RsaDocument.read secret with
    | error e =>
      rw [resolve, hder] at hkey
      exact absurd hkey (by simp [Except.map])
    | ok der =>
      rw [resolve, hder] at hkey
      obtain rfl := Except.ok.inj hkey
      obtain ⟨k, s, hk, hs, hsignature⟩ := h
      exact ⟨der, k, s, hder, hk, hs, hsignature⟩

namespace Verifier

/-- No segment of a signed text holds a dot. -/
theorem dot_not_mem_of_signs {key : VerifyingKey} {message : Bytes} {signature : List Char}
    (h : key.Signs message signature) : '.' ∉ signature := by
  cases key with
  | shared secret =>
    obtain rfl : signature = _ := h
    exact CompactToken.dot_not_mem_segment _
  | rsa der =>
    obtain ⟨_, s, -, rfl, -⟩ := h
    exact CompactToken.dot_not_mem_segment s

/-- A token that opens is authentic, and its payload is a JSON object. -/
theorem isAuthentic_of_open? {method : SigningMethod} {secret token : String} {key : VerifyingKey}
    {p : Payload} (hkey : (KeyMaterial.resolve method secret).key = .ok key)
    (h : open? method key token.toList = .ok p) :
    ∃ t payload, IsAuthentic method secret token t ∧ t.payload = CompactToken.segment payload
      ∧ Json.ofBytes? payload = some p.claims.toJson := by
  obtain ⟨t, header, payload, ht, hheader, hread, hsigns, hpayload, hp⟩ := open?_eq_ok_iff.1 h
  obtain ⟨-, -, htoken⟩ := CompactToken.ofChars?_eq_some_iff.1 ht
  have hnames : TokenHeader.Names header method.label := by
    rw [← method.label_algorithm]
    exact TokenHeader.names_of_read hread
  have hsegments : token.toList.splitOn '.' = [t.header, t.payload, t.signature] := by
    rw [htoken]
    refine CompactToken.splitOn_toChars ?_ ?_ (dot_not_mem_of_signs hsigns)
    · rw [hheader]
      exact CompactToken.dot_not_mem_segment header
    · rw [hpayload]
      exact CompactToken.dot_not_mem_segment payload
  refine ⟨t, payload, ⟨hsegments, ⟨header, hheader, ?_⟩, ?_⟩, hpayload,
    Payload.ofBytes?_of_read hp⟩
  · intro name
    exact ⟨fun hname => hname.unique hnames, fun hname => hname ▸ hnames⟩
  · exact KeyMaterial.signs_of_resolve hkey hsigns

/-- Under a shared secret one signature at most is accepted behind a header and a payload, at
whatever times. -/
theorem signature_unique {secret : String} {skew : Nat} {debug : Bool} {now now' : Int}
    {h p s s' : List Char} {c c' : Claims}
    (hs : (ofSecret .hs256 secret skew debug).verify now
      (String.ofList (CompactToken.toChars ⟨h, p, s⟩)) = .ok c)
    (hs' : (ofSecret .hs256 secret skew debug).verify now'
      (String.ofList (CompactToken.toChars ⟨h, p, s'⟩)) = .ok c') : s = s' := by
  -- the signature of an accepted token is a function of its header and payload
  suffices hfun : ∀ {now s c}, (ofSecret .hs256 secret skew debug).verify now
      (String.ofList (CompactToken.toChars ⟨h, p, s⟩)) = .ok c →
      s = CompactToken.segment
        (Hmac.sha256 (Utf8.encode secret) (CompactToken.signedBytes ⟨h, p, []⟩)) from
    (hfun hs).trans (hfun hs').symm
  intro now s c hverify
  obtain ⟨key, payload, hkey, -, hopen, -⟩ := verify_eq_ok_iff.1 hverify
  obtain rfl : VerifyingKey.shared (Utf8.encode secret) = key := Except.ok.inj hkey
  rw [String.toList_ofList] at hopen
  obtain ⟨t, header, bytes, ht, hheader, -, hsigns, hpayload, -⟩ := open?_eq_ok_iff.1 hopen
  obtain ⟨-, -, htoken⟩ := CompactToken.ofChars?_eq_some_iff.1 ht
  have ht' : CompactToken.mk h p s = t := by
    refine CompactToken.eq_of_toChars_eq ?_ ?_ (dot_not_mem_of_signs hsigns) htoken
    · rw [hheader]
      exact CompactToken.dot_not_mem_segment header
    · rw [hpayload]
      exact CompactToken.dot_not_mem_segment bytes
  obtain rfl := ht'
  exact hsigns

/-- Accepted tokens are authentic, and what is accepted is their payload; a token over the limit is
not looked at; only authentic tokens are refused for a reason of time; and a shared secret accepts
one signature at most behind a header and a payload. -/
theorem verify_sound (method : SigningMethod) (secret : String) (skew : Nat) (debug : Bool)
    (now : Int) (token : String) :
    (∀ c, (ofSecret method secret skew debug).verify now token = .ok c →
      (KeyMaterial.resolve method secret).isUsable ∧ token.utf8ByteSize ≤ 8192
        ∧ ∃ t payload, IsAuthentic method secret token t
          ∧ t.payload = CompactToken.segment payload
          ∧ Json.ofBytes? payload = some (.object c.members))
    ∧ ((KeyMaterial.resolve method secret).isUsable → 8192 < token.utf8ByteSize →
      (ofSecret method secret skew debug).verify now token = .error .tokenTooLarge)
    ∧ (∀ e, (ofSecret method secret skew debug).verify now token = .error e →
      (e = .expired ∨ e = .notYetValid ∨ e = .issuedInFuture) →
        ∃ t, IsAuthentic method secret token t)
    ∧ (∀ h p s s' now' c c', method = .hs256 →
      (ofSecret method secret skew debug).verify now
        (String.ofList (CompactToken.toChars ⟨h, p, s⟩)) = .ok c →
      (ofSecret method secret skew debug).verify now'
        (String.ofList (CompactToken.toChars ⟨h, p, s'⟩)) = .ok c' → s = s') := by
  refine ⟨?_, ?_, ?_, ?_⟩
  · intro c hverify
    obtain ⟨key, p, hkey, hsize, hopen, htimes⟩ := verify_eq_ok_iff.1 hverify
    obtain ⟨t, payload, hauthentic, hpayload, hjson⟩ := isAuthentic_of_open? hkey hopen
    obtain ⟨-, -, -, rfl⟩ := checkTimes_eq_ok_iff.1 htimes
    refine ⟨?_, hsize, t, payload, hauthentic, hpayload, hjson⟩
    rw [KeyMaterial.isUsable, show (KeyMaterial.resolve method secret).key = .ok key from hkey]
    rfl
  · intro husable hsize
    cases hkey : (KeyMaterial.resolve method secret).key with
    | error e =>
      rw [KeyMaterial.isUsable, hkey] at husable
      exact absurd husable (by simp [Except.isOk, Except.toBool])
    | ok key => exact verify_eq_tooLarge hkey hsize
  · intro e hverify he
    obtain ⟨key, p, hkey, -, hopen, -⟩ := exists_open?_of_verify_eq_error hverify he
    obtain ⟨t, -, hauthentic, -⟩ := isAuthentic_of_open? hkey hopen
    exact ⟨t, hauthentic⟩
  · rintro h p s s' now' c c' rfl hs hs'
    exact signature_unique hs hs'

end Verifier

end AuthGateway
