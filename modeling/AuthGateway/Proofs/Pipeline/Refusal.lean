import AuthGateway.Proofs.Pipeline.Rejection

/-!
# Why requests are turned away

`TurnsAway` says for which reason the settings turn a client's request away: it presents no token
where one is asked for, or something that is none, or one that does not verify, or one whose caller
does not belong to the required group; and where a group is required but no token is asked for,
nobody has a context.

A request is turned away along a chain by its first gate, or behind it (`rejectedAlong_cons`), and
only gates of admission turn requests away (`not_rejectedAlong`).  So a pipeline rejects what is
not answered further out and what the settings turn away, for the same reason
(`Pipeline.rejects_iff`), and there is one reason at most (`TurnsAway.unique`).
-/

namespace AuthGateway

/-! ### Along a chain -/

/-- Whether a request arrives at a gate of a chain and is turned away there for a reason. -/
def RejectedAlong (c : Conditions) (gates : List Gate) (r : Request) (reason : RejectionReason) :
    Prop :=
  ∃ front g back r' answer, gates = front ++ g :: back ∧ arriving c front r = some r'
    ∧ g.Refuses c r' answer reason

section Chains

variable {c : Conditions} {r : Request} {reason : RejectionReason} {gates front back : List Gate}
  {g : Gate}

theorem not_rejectedAlong_nil : ¬ RejectedAlong c [] r reason := by
  rintro ⟨front, g, back, -, -, h, -⟩
  exact absurd h (by simp)

/-- A request is turned away by the first gate, or it is let through and turned away behind it. -/
theorem rejectedAlong_cons : RejectedAlong c (g :: gates) r reason ↔
    (∃ answer, g.Refuses c r answer reason)
      ∨ ∃ r', (g.enter c r).1 = .forward r' ∧ RejectedAlong c gates r' reason := by
  constructor
  · rintro ⟨front, g', back, r', answer, hgates, harrives, hrefuses⟩
    cases front with
    | nil =>
      obtain ⟨rfl, -⟩ := List.cons.inj hgates
      obtain rfl := Option.some.inj harrives
      exact Or.inl ⟨answer, hrefuses⟩
    | cons g'' front =>
      obtain ⟨rfl, rfl⟩ := List.cons.inj hgates
      cases henter : (g.enter c r).1 with
      | settled outcome =>
        rw [arriving_of_settled henter] at harrives
        exact absurd harrives (by simp)
      | forward r'' =>
        rw [arriving_of_forward henter] at harrives
        exact Or.inr ⟨r'', rfl, front, g', back, r', answer, rfl, harrives, hrefuses⟩
  · rintro (⟨answer, hrefuses⟩ | ⟨r'', henter, front, g', back, r', answer, rfl, harrives,
      hrefuses⟩)
    · exact ⟨[], g, gates, r, answer, rfl, rfl, hrefuses⟩
    · exact ⟨g :: front, g', back, r', answer, rfl,
        (arriving_of_forward henter front).trans harrives, hrefuses⟩

theorem rejectedAlong_singleton :
    RejectedAlong c [g] r reason ↔ ∃ answer, g.Refuses c r answer reason := by
  simp [rejectedAlong_cons, not_rejectedAlong_nil]

/-- A request is turned away along the first of two chains, or it arrives at the second and is
turned away there. -/
theorem rejectedAlong_append : RejectedAlong c (front ++ back) r reason ↔
    RejectedAlong c front r reason
      ∨ ∃ r', arriving c front r = some r' ∧ RejectedAlong c back r' reason := by
  induction front generalizing r with
  | nil => simp [not_rejectedAlong_nil, arriving]
  | cons g front ih =>
    rw [List.cons_append, rejectedAlong_cons, rejectedAlong_cons]
    cases henter : (g.enter c r).1 with
    | settled outcome => simp [arriving_of_settled henter]
    | forward r' => simp [arriving_of_forward henter, ih, or_assoc]

/-- Only gates of admission turn requests away. -/
theorem not_rejectedAlong (h : ∀ g ∈ gates, g.stage ∉ Stage.admission) :
    ¬ RejectedAlong c gates r reason := by
  rintro ⟨front, g, back, r', answer, rfl, -, hrefuses⟩
  exact h g (List.mem_append_right front List.mem_cons_self) (stage_of_refuses hrefuses)

/-- The gate that asks for a token turns away whom it does not let in. -/
theorem refuses_auth_iff {g : TokenGate} :
    (∃ answer, (Gate.auth g).Refuses c r answer reason)
      ↔ (g.decide c.now r).1 = .error reason := by
  constructor
  · rintro ⟨answer, hrefuses⟩
    cases hrefuses with
    | token h => exact h
  · intro h
    exact ⟨g.responder, .token h⟩

/-- The gate that asks for a group turns away whom it does not let in. -/
theorem refuses_groupClaim_iff {g : GroupGate} :
    (∃ answer, (Gate.groupClaim g).Refuses c r answer reason)
      ↔ (g.decide r.context).1 = .error reason := by
  constructor
  · rintro ⟨answer, hrefuses⟩
    cases hrefuses with
    | group h => exact h
  · intro h
    exact ⟨g.responder, .group h⟩

end Chains

/-! ### By the settings -/

/-- Why settings turn a client's request away at a time, given a judge of tokens. -/
inductive TurnsAway (s : Settings) (judge : TokenJudge) (now : Int) (r : Request) :
    RejectionReason → Prop where
  | absent (henabled : s.token.enabled = true) (hopen : s.isOpen r = false)
    (habsent : Extraction.ofHeaders r.headers s.token.cookieName = .absent) :
    TurnsAway s judge now r .noToken
  | undecided (henabled : s.token.enabled = false) (hgroup : s.token.requiredGroup ≠ "") :
    TurnsAway s judge now r .noToken
  | malformed (henabled : s.token.enabled = true) (hopen : s.isOpen r = false)
    (hmalformed : Extraction.ofHeaders r.headers s.token.cookieName = .malformed) :
    TurnsAway s judge now r .invalidToken
  | refused (henabled : s.token.enabled = true) (hopen : s.isOpen r = false) {token : String}
    (hfound : Extraction.ofHeaders r.headers s.token.cookieName = .found token) {e : VerifyError}
    (hverdict : judge.verdict now token = .error e) : TurnsAway s judge now r .invalidToken
  | outsider (henabled : s.token.enabled = true) (hopen : s.isOpen r = false) {token : String}
    (hfound : Extraction.ofHeaders r.headers s.token.cookieName = .found token) {claims : Claims}
    (hverdict : judge.verdict now token = .ok claims) (houtside : ¬ s.HasGroup claims) :
    TurnsAway s judge now r .notInRequiredGroup

section Settings

variable {s : Settings} {judge : TokenJudge} {c : Conditions} {now : Int} {r : Request}
  {reason : RejectionReason} {answer : Responder}

/-- Where tokens are asked for, the token gate turns a request away, or the group gate the caller
whom it lets in. -/
theorem turnsAway_iff_of_enabled (henabled : s.token.enabled = true) (answer : Responder) :
    TurnsAway s judge now r reason
      ↔ ((Startup.tokenGate s judge answer).decide now r).1 = .error reason
        ∨ (reason = .notInRequiredGroup ∧ ∃ claims,
          ((Startup.tokenGate s judge answer).decide now r).1
            = .ok ⟨s.token.userProperty, .authenticated claims⟩ ∧ ¬ s.HasGroup claims) := by
  rw [TokenGate.decide_eq_error_iff]
  constructor
  · intro h
    cases h with
    | absent _ hopen habsent => exact Or.inl ⟨hopen, Or.inl ⟨habsent, rfl⟩⟩
    | undecided hdisabled =>
      rw [henabled] at hdisabled
      exact absurd hdisabled (by decide)
    | malformed _ hopen hmalformed => exact Or.inl ⟨hopen, Or.inr (Or.inl ⟨hmalformed, rfl⟩)⟩
    | refused _ hopen hfound hverdict =>
      exact Or.inl ⟨hopen, Or.inr (Or.inr ⟨_, _, hfound, hverdict, rfl⟩)⟩
    | outsider _ hopen hfound hverdict houtside =>
      refine Or.inr ⟨rfl, _, ?_, houtside⟩
      exact TokenGate.decide_eq_ok_iff.2 (Or.inr ⟨hopen, _, _, hfound, hverdict, rfl⟩)
  · rintro (⟨hopen, ⟨habsent, rfl⟩ | ⟨hmalformed, rfl⟩ | ⟨token, e, hfound, hverdict, rfl⟩⟩
      | ⟨rfl, claims, hok, houtside⟩)
    · exact .absent henabled hopen habsent
    · exact .malformed henabled hopen hmalformed
    · exact .refused henabled hopen hfound hverdict
    · rcases TokenGate.decide_eq_ok_iff.1 hok with ⟨-, h⟩ | ⟨hopen, token, _, hfound, hverdict, h⟩
      · exact absurd (RequestContext.mk.inj h).2 (by simp)
      · obtain rfl := Admission.authenticated.inj (RequestContext.mk.inj h).2
        exact .outsider henabled hopen hfound hverdict houtside

/-- Where no tokens are asked for, everybody is turned away or nobody. -/
theorem turnsAway_iff_of_disabled (henabled : s.token.enabled = false) :
    TurnsAway s judge now r reason ↔ s.token.requiredGroup ≠ "" ∧ reason = .noToken := by
  constructor
  · intro h
    cases h with
    | undecided _ hgroup => exact ⟨hgroup, rfl⟩
    | absent h | malformed h | refused h | outsider h =>
      rw [henabled] at h
      exact absurd h (by decide)
  · rintro ⟨hgroup, rfl⟩
    exact .undecided henabled hgroup

/-- There is one reason at most. -/
theorem TurnsAway.unique {reason' : RejectionReason} (h : TurnsAway s judge now r reason)
    (h' : TurnsAway s judge now r reason') : reason = reason' := by
  cases henabled : s.token.enabled with
  | false =>
    have hreason := ((turnsAway_iff_of_disabled henabled).1 h).2
    have hreason' := ((turnsAway_iff_of_disabled henabled).1 h').2
    rw [hreason, hreason']
  | true =>
    rcases (turnsAway_iff_of_enabled henabled (.challenge "")).1 h with
      hdecide | ⟨rfl, _, hok, -⟩ <;>
    rcases (turnsAway_iff_of_enabled henabled (.challenge "")).1 h' with
      hdecide' | ⟨rfl, _, hok', -⟩
    · exact Except.error.inj (hdecide.symm.trans hdecide')
    · exact absurd (hdecide.symm.trans hok') (by simp)
    · exact absurd (hdecide'.symm.trans hok) (by simp)
    · rfl

/-- Behind the token gate, the group gate turns callers away who do not belong to the group. -/
theorem rejectedAlong_group_iff (hgroup : s.token.requiredGroup ≠ "") {context : RequestContext} :
    RejectedAlong c [.groupClaim ⟨s.token.requiredGroup, answer⟩] (r.withContext context) reason
      ↔ reason = .notInRequiredGroup
        ∧ ∃ claims, context.admission = .authenticated claims ∧ ¬ s.HasGroup claims := by
  have hmember {claims : Claims} :
      claims.isMemberOf s.token.requiredGroup = false ↔ ¬ s.HasGroup claims := by
    rw [← Bool.not_eq_true, Claims.isMemberOf_iff, Settings.HasGroup]
    simp only [ne_eq, hgroup, not_false_eq_true, forall_const]
  rw [rejectedAlong_singleton, refuses_groupClaim_iff, GroupGate.decide_eq_error_iff]
  constructor
  · rintro (⟨h, -⟩ | ⟨_, claims, h, hclaims, hout, rfl⟩)
    · exact absurd h (by simp [Request.withContext])
    · obtain rfl := Option.some.inj h
      exact ⟨rfl, claims, hclaims, hmember.1 hout⟩
  · rintro ⟨rfl, claims, hclaims, hout⟩
    exact Or.inr ⟨context, claims, rfl, hclaims, hmember.2 hout, rfl⟩

/-- The gates of admission turn away what the settings turn away. -/
theorem Startup.IsAdmission.rejectedAlong_iff {gates : List Gate} (h : IsAdmission s judge gates)
    (hcontext : r.context = none) :
    RejectedAlong c gates r reason ↔ TurnsAway s judge c.now r reason := by
  cases h with
  | off henabled hgroup =>
    rw [turnsAway_iff_of_disabled henabled]
    simp [not_rejectedAlong_nil, hgroup]
  | @token answer henabled hgroup =>
    rw [rejectedAlong_singleton, refuses_auth_iff, turnsAway_iff_of_enabled henabled answer]
    refine (or_iff_left ?_).symm
    rintro ⟨-, claims, -, houtside⟩
    exact houtside fun hrequired => absurd hgroup hrequired
  | group henabled hgroup =>
    rw [rejectedAlong_singleton, refuses_groupClaim_iff, GroupGate.decide_eq_error_iff, hcontext,
      turnsAway_iff_of_disabled henabled]
    simp [hgroup]
  | @both answer henabled hgroup =>
    rw [rejectedAlong_cons, refuses_auth_iff, turnsAway_iff_of_enabled henabled answer]
    refine or_congr_right ⟨?_, ?_⟩
    · rintro ⟨r', henter, hrejected⟩
      cases hdecide : ((tokenGate s judge answer).decide c.now r).1 with
      | error reason' =>
        rw [Gate.enter_auth_of_error hdecide] at henter
        exact absurd henter (by simp)
      | ok context =>
        rw [Gate.enter_auth_of_ok hdecide] at henter
        obtain rfl := Passage.forward.inj henter
        obtain ⟨rfl, claims, hclaims, houtside⟩ := (rejectedAlong_group_iff hgroup).1 hrejected
        refine ⟨rfl, claims, ?_, houtside⟩
        rw [userProperty_of_decide hdecide, hclaims]
    · rintro ⟨rfl, claims, hok, houtside⟩
      exact ⟨_, Gate.enter_auth_of_ok hok,
        (rejectedAlong_group_iff hgroup).2 ⟨rfl, claims, rfl, houtside⟩⟩

end Settings

/-! ### In a pipeline -/

namespace Pipeline

variable {s : Settings} {supplied : Collaborators} {around : Surroundings} {p : Pipeline}

/-- A pipeline rejects a client's request for a reason exactly when the request is not answered
further out and the settings turn it away for that reason. -/
theorem rejects_iff (hbuild : (build s supplied around).2 = .ok p) {c : Conditions} {r : Request}
    (hcontext : r.context = none) {reason : RejectionReason} :
    p.Rejects c r reason ↔ ¬ s.AnswersOutside r
      ∧ TurnsAway s (Startup.judgeOf s.token supplied) c.now r reason := by
  obtain ⟨outer, admission, inner, hp, houter, hadmission, hinner⟩ := gates_of_build hbuild
  have hapart : (∀ st ∈ Stage.outer, st ∉ Stage.admission)
      ∧ ∀ st ∈ Stage.inner, st ∉ Stage.admission := by
    decide
  have houter' : ¬ RejectedAlong c outer r reason := not_rejectedAlong fun g hg =>
    hapart.1 _ (Startup.stage_mem_of_enabled houter hg)
  have hinner' (r' : Request) : ¬ RejectedAlong c inner r' reason := not_rejectedAlong fun g hg =>
    hapart.2 _ (Startup.stage_mem_of_enabled hinner hg)
  have hturns : RejectedAlong c admission r reason
      ↔ TurnsAway s (Startup.judgeOf s.token supplied) c.now r reason :=
    (Startup.isAdmission_of_gatesStep hadmission).rejectedAlong_iff hcontext
  show RejectedAlong c p.gates r reason ↔ _
  rw [hp, rejectedAlong_append, or_iff_right houter']
  simp only [arriving_outer_iff houter, rejectedAlong_append, hinner', and_false, exists_false,
    or_false]
  rw [← hturns]
  constructor
  · rintro ⟨r', ⟨houtside, rfl⟩, h⟩
    exact ⟨houtside, h⟩
  · rintro ⟨houtside, h⟩
    exact ⟨r, ⟨houtside, rfl⟩, h⟩

end Pipeline

end AuthGateway
