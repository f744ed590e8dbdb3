import AuthGateway.Proofs.Pipeline.Admission

/-!
# What an empty shared secret lets in

An empty secret is a key like any other: everybody can compute authentication codes under it.
`IsForgery` describes the tokens that anyone can make in this way, and the verifier over the empty
secret refuses all tokens but these (`Verifier.verify_emptySecret`).  A pipeline over the empty
secret lets in whoever presents one and belongs to the required group
(`Pipeline.emptySecret_refuses_iff`); a token of this kind is `forgedToken`.
-/

namespace AuthGateway

/-- Whether a token is signed with the empty key and otherwise in order: it is small enough, its
header names `HS256`, and its payload is some claims that are good at the time. -/
def IsForgery (skew : Nat) (now : Int) (token : String) (claims : Claims) : Prop :=
  token.utf8ByteSize ≤ 8192 ∧ ∃ t header payload p,
    CompactToken.ofChars? token.toList = some t
      ∧ t.header = CompactToken.segment header ∧ TokenHeader.read header = some .hs256
      ∧ t.signature = CompactToken.segment (Hmac.sha256 [] t.signedBytes)
      ∧ t.payload = CompactToken.segment payload ∧ Payload.read payload = some p
      ∧ Verifier.checkTimes skew now p = .ok claims

/-- The verifier over the empty secret accepts the tokens that anyone can make, and no others. -/
theorem Verifier.verify_emptySecret {skew : Nat} {debug : Bool} {now : Int} {token : String}
    {claims : Claims} :
    (ofSecret .hs256 "" skew debug).verify now token = .ok claims
      ↔ IsForgery skew now token claims := by
  rw [verify_eq_ok_iff, IsForgery]
  constructor
  · rintro ⟨key, p, hkey, hsize, hopen, htimes⟩
    obtain rfl : VerifyingKey.shared [] = key := Except.ok.inj hkey
    obtain ⟨t, header, payload, ht, hheader, hread, hsigns, hpayload, hp⟩ :=
      open?_eq_ok_iff.1 hopen
    exact ⟨hsize, t, header, payload, p, ht, hheader, hread, hsigns, hpayload, hp, htimes⟩
  · rintro ⟨hsize, t, header, payload, p, ht, hheader, hread, hsigns, hpayload, hp, htimes⟩
    exact ⟨.shared [], p, rfl, hsize,
      open?_eq_ok_iff.2 ⟨t, header, payload, ht, hheader, hread, hsigns, hpayload, hp⟩, htimes⟩

/-- Refusing a token is not accepting it. -/
theorem Verifier.exists_error_iff {v : Verifier} {now : Int} {token : String} :
    (∃ e, v.verify now token = .error e) ↔ ¬ ∃ claims, v.verify now token = .ok claims := by
  cases v.verify now token <;> simp

namespace Pipeline

variable {s : Settings} {supplied : Collaborators}

/-- With the empty secret a request for a path that is not open is admitted when it presents a
token that anyone can make and the claims in it list the required group. -/
theorem admits_emptySecret_iff (hmethod : s.token.signingMethod = .hs256)
    (hsecret : s.token.secret = "") (hjudge : supplied.judge = none) {now : Int} {r : Request}
    (hopen : s.isOpen r = false) {a : Admission} :
    Admits s (Startup.judgeOf s.token supplied) now r a ↔ ∃ token claims,
      Extraction.ofHeaders r.headers s.token.cookieName = .found token
        ∧ IsForgery s.token.clockSkew now token claims ∧ s.HasGroup claims
        ∧ a = .authenticated claims := by
  have hverdict : ∀ token claims,
      (Startup.judgeOf s.token supplied).verdict now token = .ok claims
        ↔ IsForgery s.token.clockSkew now token claims := by
    intro token claims
    rw [Startup.judgeOf, hjudge, Option.getD_none, hmethod, hsecret]
    exact Verifier.verify_emptySecret
  constructor
  · rintro (hopen' | ⟨-, hfound, hgood, hgroup⟩)
    · rw [hopen] at hopen'
      exact absurd hopen' (by decide)
    · exact ⟨_, _, hfound, (hverdict _ _).1 hgood, hgroup, rfl⟩
  · rintro ⟨token, claims, hfound, hforgery, hgroup, rfl⟩
    exact .authenticated hopen hfound ((hverdict _ _).2 hforgery) hgroup

/-- For a tag that selects a shared secret, the verifier over the empty secret refuses a token
exactly when it is not one that anyone can make.  A pipeline over the empty secret that judges
tokens itself stops a request for a path that is not open, before the static files, exactly when it
is answered further out or presents no such token with the required group; and then it never
arrives at the application either. -/
theorem emptySecret_refuses_iff {tag : String} (htag : SigningMethod.ofTag tag = .hs256) :
    (∀ (skew : Nat) (debug : Bool) (now : Int) (token : String),
      (∃ e, (Verifier.ofSecret (.ofTag tag) "" skew debug).verify now token = .error e)
        ↔ ¬ ∃ claims, IsForgery skew now token claims)
    ∧ ∀ (s : Settings) (supplied : Collaborators) (around : Surroundings) (p : Pipeline)
        (c : Conditions) (r : Request), (build s supplied around).2 = .ok p →
      s.token.enabled = true → s.token.signingMethod = .ofTag tag → s.token.secret = "" →
      supplied.judge = none → r.context = none → s.isOpen r = false →
      (p.arrivingAt c .static r = none ↔ s.AnswersOutside r ∨ ¬ ∃ token claims,
        Extraction.ofHeaders r.headers s.token.cookieName = .found token
          ∧ IsForgery s.token.clockSkew c.now token claims ∧ s.HasGroup claims)
      ∧ (p.arrivingAt c .static r = none → arriving c p.gates r = none) := by
  rw [htag]
  refine ⟨?_, ?_⟩
  · intro skew debug now token
    rw [Verifier.exists_error_iff, not_iff_not]
    exact exists_congr fun claims => Verifier.verify_emptySecret
  · intro s supplied around p c r hbuild henabled hmethod hsecret hjudge hcontext hopen
    have hstatic := arrivingAt_static_iff hbuild (Or.inl henabled) c hcontext
    have hadmits (a : Admission) : Admits s (Startup.judgeOf s.token supplied) c.now r a ↔ _ :=
      admits_emptySecret_iff hmethod hsecret hjudge hopen
    refine ⟨?_, arriving_of_arrivingAt_none⟩
    constructor
    · intro hnone
      by_cases houtside : s.AnswersOutside r
      · exact Or.inl houtside
      · refine Or.inr ?_
        rintro ⟨token, claims, hfound, hforgery, hgroup⟩
        have harrives := (hstatic _).2 ⟨henabled, houtside, _,
          (hadmits _).2 ⟨token, claims, hfound, hforgery, hgroup, rfl⟩, rfl⟩
        rw [hnone] at harrives
        exact absurd harrives (by simp)
    · intro hstopped
      rw [Option.eq_none_iff_forall_ne_some]
      intro r' hr'
      obtain ⟨-, houtside, a, ha, -⟩ := (hstatic r').1 hr'
      rcases hstopped with houtside' | hnone
      · exact houtside houtside'
      · obtain ⟨token, claims, hfound, hforgery, hgroup, -⟩ := (hadmits a).1 ha
        exact hnone ⟨token, claims, hfound, hforgery, hgroup⟩

/-- A caller without a token. -/
def anonymousRequest : Request :=
  ⟨"GET", .relative "/api/v1/me" none, [], [], none⟩

/-- No token is no forgery, and by default, with the empty secret, a caller without one stays out:
an unknown tag selects a shared secret too. -/
theorem emptySecret_refuses_anonymous :
    SigningMethod.ofTag "unknown" = .hs256
      ∧ (∃ e, (Verifier.ofSecret (.ofTag "unknown") "" 0 false).verify 2000 "" = .error e)
      ∧ ∃ s p, Settings.load tokenVariables = .ok s ∧ (build s .none bareSurroundings).2 = .ok p
        ∧ s.token.signingMethod = .ofTag "unknown" ∧ s.token.secret = ""
        ∧ arriving ⟨2000, ⟨0, 0⟩, .empty []⟩ p.gates anonymousRequest = none := by
  have htag : SigningMethod.ofTag "unknown" = .hs256 := by decide
  have hload : ∃ s, Settings.load tokenVariables = .ok s ∧ s.token.enabled = true
      ∧ s.token.signingMethod = .hs256 ∧ s.token.secret = ""
      ∧ Extraction.ofHeaders anonymousRequest.headers s.token.cookieName = .absent
      ∧ s.isOpen anonymousRequest = false := ⟨_, rfl, rfl, rfl, rfl, rfl, rfl⟩
  obtain ⟨s, hs, henabled, hmethod, hsecret, habsent, hopen⟩ := hload
  obtain ⟨p, hp⟩ := exists_build_tokenVariables hs
  obtain ⟨hverify, hpipeline⟩ := emptySecret_refuses_iff htag
  refine ⟨htag, (hverify 0 false 2000 "").2 ?_, s, p, hs, hp, hmethod.trans htag.symm, hsecret, ?_⟩
  · rintro ⟨claims, -, t, -, -, -, ht, -⟩
    have hnone : CompactToken.ofChars? "".toList = none := by decide
    rw [hnone] at ht
    exact absurd ht (by simp)
  · obtain ⟨hstops, hnever⟩ := hpipeline s .none bareSurroundings p ⟨2000, ⟨0, 0⟩, .empty []⟩
      anonymousRequest hp henabled (hmethod.trans htag.symm) hsecret rfl rfl hopen
    refine hnever (hstops.2 (Or.inr ?_))
    rintro ⟨token, claims, hfound, -⟩
    rw [habsent] at hfound
    exact absurd hfound (by simp)

/-- A token with the subject `test-subject`, signed with the empty key. -/
def forgedToken : String :=
  "eyJ0eXAiOiJKV1QiLCJhbGciOiJIUzI1NiJ9.eyJpYXQiOjEwMDAsInN1YiI6InRlc3Qtc3ViamVjdCJ9."
    ++ "GGpbIPQZeGrHmp3yerhIaTqc1w9dxp7oyxBNBe_9bJU"

/-- An empty shared secret does not refuse every token. -/
theorem emptySecret_accepts_forgedToken :
    SigningMethod.ofTag "HS256" = .hs256
      ∧ ¬ ∃ e, (Verifier.ofSecret (.ofTag "HS256") "" 0 false).verify 2000 forgedToken
        = .error e := by
  have haccepts :
      ((Verifier.ofSecret (.ofTag "HS256") "" 0 false).verify 2000 forgedToken).isOk = true := by
    decide +kernel
  refine ⟨by decide, ?_⟩
  rintro ⟨e, he⟩
  rw [he] at haccepts
  exact absurd haccepts Bool.false_ne_true

end Pipeline

end AuthGateway
