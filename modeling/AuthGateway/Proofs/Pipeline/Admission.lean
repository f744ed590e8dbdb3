import AuthGateway.Pipeline.Serve
import AuthGateway.Proofs.Gate.Admission
import AuthGateway.Proofs.Pipeline.Delivery
import AuthGateway.Settings.Load

/-!
# Nobody gets past admission unadmitted

`Admits` says whom the settings let in: requests for whitelisted paths, and callers with a verified
token who belong to the required group.  In every pipeline that asks for tokens or for a group, a
request arrives at the static files exactly when it is admitted, with the context of its admission;
whatever arrives further in was admitted as well; and every other request gets the one rejection
(`Pipeline.admission`).

The gates of admission are at most two.  What they decide together is settled by cases on which of
them are there (`admission_cases`): without the token gate nobody has a context, so the group gate
lets nobody in.
-/

namespace AuthGateway

/-! ### Admitted requests -/

namespace Settings

/-- Whether a request is for a path that needs no token. -/
def isOpen (s : Settings) (r : Request) : Bool :=
  (Whitelist.ofSettings s.token).admits (effectivePath s.webPrefix.toList r.path.toList)

/-- Whether the `groups` claim is an array that holds the required group, if one is required. -/
def HasGroup (s : Settings) (claims : Claims) : Prop :=
  s.token.requiredGroup ≠ "" → ∃ items, claims.get? "groups" = some (.array items)
    ∧ .string s.token.requiredGroup ∈ items

/-- Whether a request is answered outside admission: a scrape, or a preflight. -/
def AnswersOutside (s : Settings) (r : Request) : Prop :=
  (s.prometheus.enabled = true ∧ r.path = s.prometheus.path)
    ∨ (s.corsEnabled = true ∧ r.method = "OPTIONS")

end Settings

/-- How a request is admitted at a time, given a judge of tokens. -/
inductive Admits (s : Settings) (judge : TokenJudge) (now : Int) (r : Request) : Admission → Prop
  where
  | whitelisted (hopen : s.isOpen r = true) : Admits s judge now r .whitelisted
  | authenticated {token : String} {claims : Claims} (hopen : s.isOpen r = false)
    (hfound : Extraction.ofHeaders r.headers s.token.cookieName = .found token)
    (hverdict : judge.verdict now token = .ok claims) (hgroup : s.HasGroup claims) :
    Admits s judge now r (.authenticated claims)

variable {s : Settings} {judge : TokenJudge} {now : Int} {r : Request}

/-- A request is admitted when the token gate lets it in and its caller belongs to the group. -/
theorem admits_iff_decide (responder : Responder) {a : Admission} :
    Admits s judge now r a ↔
      ((Startup.tokenGate s judge responder).decide now r).1 = .ok ⟨s.token.userProperty, a⟩
        ∧ ∀ claims, a = .authenticated claims → s.HasGroup claims := by
  rw [TokenGate.decide_eq_ok_iff]
  constructor
  · rintro (hopen | ⟨hopen, hfound, hverdict, hgroup⟩)
    · exact ⟨Or.inl ⟨hopen, rfl⟩, fun claims h => absurd h (by simp)⟩
    · refine ⟨Or.inr ⟨hopen, _, _, hfound, hverdict, rfl⟩, fun claims h => ?_⟩
      obtain rfl := Admission.authenticated.inj h
      exact hgroup
  · rintro ⟨⟨hopen, hcontext⟩ | ⟨hopen, token, claims, hfound, hverdict, hcontext⟩, hgroup⟩
    · obtain rfl : a = .whitelisted := (RequestContext.mk.inj hcontext).2
      exact .whitelisted hopen
    · obtain rfl : a = .authenticated claims := (RequestContext.mk.inj hcontext).2
      exact .authenticated hopen hfound hverdict (hgroup claims rfl)

/-- The token gate only makes contexts under the configured name. -/
theorem userProperty_of_decide {responder : Responder} {context : RequestContext}
    (h : ((Startup.tokenGate s judge responder).decide now r).1 = .ok context) :
    context = ⟨s.token.userProperty, context.admission⟩ := by
  rcases TokenGate.decide_eq_ok_iff.1 h with ⟨-, rfl⟩ | ⟨-, _, _, -, -, rfl⟩ <;> rfl

/-- A request is admitted in one way at most. -/
theorem Admits.unique {a b : Admission} (ha : Admits s judge now r a)
    (hb : Admits s judge now r b) : a = b := by
  have ha' := ((admits_iff_decide (.challenge "")).1 ha).1
  have hb' := ((admits_iff_decide (.challenge "")).1 hb).1
  exact (RequestContext.mk.inj (Except.ok.inj (ha'.symm.trans hb'))).2

/-! ### The gates of admission -/

namespace Startup

variable {supplied : Collaborators} {around : Surroundings}

/-- What becomes of a request at the gates of admission: it is admitted and goes on with its
context, or it gets the one rejection. -/
inductive AtAdmission (s : Settings) (judge : TokenJudge) (c : Conditions) (r : Request)
    (gates : List Gate) : Prop where
  | admitted {a : Admission} (enabled : s.token.enabled = true)
    (admits : Admits s judge c.now r a)
    (arrives : arriving c gates r = some (r.withContext ⟨s.token.userProperty, a⟩))
  | rejected (refused : ¬ (s.token.enabled = true ∧ ∃ a, Admits s judge c.now r a))
    (arrives : arriving c gates r = none) {answer : Responder}
    (hanswer : responder s.token = .ok answer)
    (outcome : ∀ h back, (serveThrough c h (gates ++ back) r).outcome = .answered answer.response)

variable {c : Conditions} {answer : Responder}

/-- The gates reject a request that the first of them answers. -/
theorem atAdmission_of_settled {g : Gate} {gates : List Gate}
    (refused : ¬ (s.token.enabled = true ∧ ∃ a, Admits s judge c.now r a))
    (hanswer : responder s.token = .ok answer)
    (hsettled : (g.enter c r).1 = .settled (.answered answer.response)) :
    AtAdmission s judge c r (g :: gates) :=
  .rejected refused (arriving_of_settled hsettled gates) hanswer fun h back =>
    serveThrough_of_settled hsettled h (gates ++ back)

/-- Whom the token gate does not let in is rejected, whatever gates follow. -/
theorem atAdmission_of_error {reason : RejectionReason} {gates : List Gate}
    (hanswer : responder s.token = .ok answer)
    (hdecide : ((tokenGate s judge answer).decide c.now r).1 = .error reason) :
    AtAdmission s judge c r (.auth (tokenGate s judge answer) :: gates) := by
  refine atAdmission_of_settled ?_ hanswer (Gate.enter_auth_of_error hdecide)
  rintro ⟨-, a, hadmits⟩
  rw [((admits_iff_decide answer).1 hadmits).1] at hdecide
  exact absurd hdecide (by simp)

/-- The token gate on its own. -/
theorem atAdmission_token (henabled : s.token.enabled = true) (hgroup : s.token.requiredGroup = "")
    (hanswer : responder s.token = .ok answer) :
    AtAdmission s judge c r [.auth (tokenGate s judge answer)] := by
  cases hdecide : ((tokenGate s judge answer).decide c.now r).1 with
  | ok context =>
    have hcontext := userProperty_of_decide hdecide
    rw [hcontext] at hdecide
    refine .admitted henabled ((admits_iff_decide answer).2 ⟨hdecide, ?_⟩) ?_
    · exact fun claims _ hne => absurd hgroup hne
    · exact arriving_of_forward (Gate.enter_auth_of_ok hdecide) []
  | error reason => exact atAdmission_of_error hanswer hdecide

/-- The group gate on its own: nobody has decided about a request before it. -/
theorem atAdmission_group (henabled : s.token.enabled = false) (hcontext : r.context = none)
    (hanswer : responder s.token = .ok answer) :
    AtAdmission s judge c r [.groupClaim ⟨s.token.requiredGroup, answer⟩] := by
  have hdecide : ((⟨s.token.requiredGroup, answer⟩ : GroupGate).decide r.context).1
      = .error .noToken := by
    rw [hcontext]
    rfl
  refine atAdmission_of_settled ?_ hanswer (Gate.enter_groupClaim_of_error hdecide)
  rintro ⟨h, -⟩
  rw [henabled] at h
  exact absurd h (by decide)

/-- Both gates: the group gate reads the context that the token gate left. -/
theorem atAdmission_both (henabled : s.token.enabled = true) (hgroup : s.token.requiredGroup ≠ "")
    (hanswer : responder s.token = .ok answer) :
    AtAdmission s judge c r
      [.auth (tokenGate s judge answer), .groupClaim ⟨s.token.requiredGroup, answer⟩] := by
  cases hdecide : ((tokenGate s judge answer).decide c.now r).1 with
  | error reason => exact atAdmission_of_error hanswer hdecide
  | ok context =>
    -- the group gate finds the context that the token gate has made
    obtain ⟨userProperty, a⟩ := context
    obtain rfl : userProperty = s.token.userProperty :=
      (RequestContext.mk.inj (userProperty_of_decide hdecide)).1
    have hforward : ((Gate.auth (tokenGate s judge answer)).enter c r).1
        = .forward (r.withContext ⟨s.token.userProperty, a⟩) := Gate.enter_auth_of_ok hdecide
    cases hmember : ((⟨s.token.requiredGroup, answer⟩ : GroupGate).decide
        (r.withContext ⟨s.token.userProperty, a⟩).context).1 with
    | ok context =>
      obtain ⟨hsame, hmembers⟩ := GroupGate.decide_eq_ok_iff.1 hmember
      obtain rfl := Option.some.inj hsame
      have hclaims : ∀ claims, a = .authenticated claims → s.HasGroup claims :=
        fun claims ha _ => Claims.isMemberOf_iff.1 (hmembers claims ha)
      refine .admitted henabled ((admits_iff_decide answer).2 ⟨hdecide, hclaims⟩) ?_
      rw [arriving_of_forward hforward]
      exact arriving_of_forward (Gate.enter_groupClaim_of_ok hmember) []
    | error reason =>
      have hsettled : ((Gate.groupClaim ⟨s.token.requiredGroup, answer⟩).enter c
          (r.withContext ⟨s.token.userProperty, a⟩)).1 = .settled (.answered answer.response) :=
        Gate.enter_groupClaim_of_error hmember
      refine .rejected ?_ ?_ hanswer fun h back => ?_
      · rintro ⟨-, b, hadmits⟩
        -- whoever is admitted has this context, and then the group gate would let it in
        obtain ⟨hdecide', hclaims⟩ := (admits_iff_decide answer).1 hadmits
        obtain rfl : a = b :=
          (RequestContext.mk.inj (Except.ok.inj (hdecide.symm.trans hdecide'))).2
        have hmembers : ∀ claims, a = .authenticated claims →
            claims.isMemberOf s.token.requiredGroup = true :=
          fun claims ha => Claims.isMemberOf_iff.2 (hclaims claims ha hgroup)
        have hok : ((⟨s.token.requiredGroup, answer⟩ : GroupGate).decide
            (some ⟨s.token.userProperty, a⟩)).1 = .ok ⟨s.token.userProperty, a⟩ :=
          GroupGate.decide_eq_ok_iff.2 ⟨rfl, hmembers⟩
        exact absurd (hok.symm.trans hmember) (by simp)
      · rw [arriving_of_forward hforward]
        exact arriving_of_settled hsettled []
      · rw [List.cons_append, serveThrough_of_forward hforward, List.cons_append,
          serveThrough_of_settled hsettled]
        rfl

/-- What becomes of a request at the gates of admission, whichever of them are there. -/
theorem admission_cases {gates : List Gate}
    (h : (gatesStep s supplied around (Stage.admission.filter (Stage.isEnabled s))).2 = .ok gates)
    (hon : s.token.enabled = true ∨ s.token.requiredGroup ≠ "") (hcontext : r.context = none) :
    AtAdmission s (judgeOf s.token supplied) c r gates := by
  cases isAdmission_of_gatesStep h with
  | off henabled hgroup =>
    rcases hon with hon | hon
    · rw [henabled] at hon
      exact absurd hon (by decide)
    · exact absurd hgroup hon
  | token henabled hgroup hanswer => exact atAdmission_token henabled hgroup hanswer
  | group henabled hgroup hanswer => exact atAdmission_group henabled hcontext hanswer
  | both henabled hgroup hanswer => exact atAdmission_both henabled hgroup hanswer

end Startup

/-! ### The whole pipeline -/

/-- Whether a request is answered outside is up to the stages that are there. -/
theorem Settings.answersOutside_iff :
    s.AnswersOutside r
      ↔ ∃ stage ∈ Stage.outer.filter (Stage.isEnabled s), stage.Answers s r := by
  constructor
  · rintro (⟨henabled, hpath⟩ | ⟨henabled, hmethod⟩)
    · exact ⟨.prometheus, List.mem_filter.2 ⟨by decide, henabled⟩, hpath⟩
    · exact ⟨.cors, List.mem_filter.2 ⟨by decide, henabled⟩, hmethod⟩
  · rintro ⟨stage, hstage, hanswers⟩
    have henabled := (List.mem_filter.1 hstage).2
    cases stage with
    | prometheus => exact Or.inl ⟨henabled, hanswers⟩
    | cors => exact Or.inr ⟨henabled, hanswers⟩
    | recovery | compression | verboseLogging | statsd | apm | auth | groupClaim | static
    | profiling | stripPrefix => exact absurd hanswers id

/-- Whatever is neither a scrape nor a preflight is not answered outside. -/
theorem Settings.not_answersOutside
    (hscrape : s.prometheus.enabled = true → r.path ≠ s.prometheus.path)
    (hpreflight : r.method ≠ "OPTIONS") : ¬ s.AnswersOutside r := by
  rintro (⟨henabled, hpath⟩ | ⟨-, hmethod⟩)
  · exact hscrape henabled hpath
  · exact hpreflight hmethod

namespace Pipeline

/-- A request as it arrives at the gate of a stage, or at the application when there is none. -/
def arrivingAt (p : Pipeline) (c : Conditions) (stage : Stage) (r : Request) : Option Request :=
  arriving c (p.gates.takeWhile fun g => g.stage ≠ stage) r

section Parts

variable {supplied : Collaborators} {around : Surroundings} {c : Conditions}
  {outer admission inner : List Gate}

/-- Stages inside come after all gates of the other parts. -/
theorem takeWhile_stage {stage : Stage} (hstage : stage ∈ Stage.inner)
    (houter : (Startup.gatesStep s supplied around
      (Stage.outer.filter (Stage.isEnabled s))).2 = .ok outer)
    (hadmission : (Startup.gatesStep s supplied around
      (Stage.admission.filter (Stage.isEnabled s))).2 = .ok admission) :
    (outer ++ (admission ++ inner)).takeWhile (fun g => g.stage ≠ stage)
      = outer ++ (admission ++ inner.takeWhile fun g => g.stage ≠ stage) := by
  -- the parts have no stage in common
  have hapart : ∀ st ∈ Stage.outer ++ Stage.admission, st ∉ Stage.inner := by
    decide
  rw [List.takeWhile_append_of_pos, List.takeWhile_append_of_pos]
  · intro g hg
    refine decide_eq_true fun heq => hapart g.stage ?_ (heq ▸ hstage)
    exact List.mem_append_right _ (Startup.stage_mem_of_enabled hadmission hg)
  · intro g hg
    refine decide_eq_true fun heq => hapart g.stage ?_ (heq ▸ hstage)
    exact List.mem_append_left _ (Startup.stage_mem_of_enabled houter hg)

/-- The gate of the static files is the first one inside. -/
theorem takeWhile_static (hinner : (Startup.gatesStep s supplied around
      (Stage.inner.filter (Stage.isEnabled s))).2 = .ok inner) :
    inner.takeWhile (fun g => g.stage ≠ .static) = [] := by
  rw [Stage.inner, List.filter_cons_of_pos (show Stage.isEnabled s .static = true from rfl)]
    at hinner
  obtain ⟨gate, rest, hgate, -, rfl⟩ := Startup.gatesStep_cons_eq_ok.1 hinner
  rw [List.takeWhile_cons_of_neg]
  rw [Startup.stage_of_gateStep hgate]
  decide

/-- A request that is not answered outside is let through as it is there. -/
theorem forward_of_not_answersOutside (houter : (Startup.gatesStep s supplied around
      (Stage.outer.filter (Stage.isEnabled s))).2 = .ok outer) (h : ¬ s.AnswersOutside r) :
    ∀ g ∈ outer, (g.enter c r).1 = .forward r := by
  refine Startup.forward_of_not_answers (fun stage hstage => (List.mem_filter.1 hstage).1) houter ?_
  intro stage hstage hanswers
  exact h (Settings.answersOutside_iff.2 ⟨stage, hstage, hanswers⟩)

/-- A request arrives behind the gates outside as it is, unless it is answered there. -/
theorem arriving_outer_iff (houter : (Startup.gatesStep s supplied around
      (Stage.outer.filter (Stage.isEnabled s))).2 = .ok outer) {r' : Request} :
    arriving c outer r = some r' ↔ ¬ s.AnswersOutside r ∧ r' = r := by
  by_cases houtside : s.AnswersOutside r
  · rw [Startup.arriving_of_answers (fun stage hstage => (List.mem_filter.1 hstage).1) houter
      (Settings.answersOutside_iff.1 houtside)]
    simp [houtside]
  · rw [arriving_of_forall (forward_of_not_answersOutside houter houtside)]
    simp [houtside, eq_comm]

/-- A request that arrives behind the gates outside was let through as it is by all of them. -/
theorem forward_of_arriving_outer (houter : (Startup.gatesStep s supplied around
      (Stage.outer.filter (Stage.isEnabled s))).2 = .ok outer) {r' : Request}
    (harrives : arriving c outer r = some r') :
    r' = r ∧ ∀ g ∈ outer, (g.enter c r).1 = .forward r := by
  obtain ⟨houtside, hsame⟩ := (arriving_outer_iff houter).1 harrives
  exact ⟨hsame, forward_of_not_answersOutside houter houtside⟩

/-- What is answered behind the gates outside is delivered, dressed. -/
theorem outcome_of_answered {p : Pipeline} {back : List Gate} (hp : p.gates = outer ++ back)
    (houter : (Startup.gatesStep s supplied around
      (Stage.outer.filter (Stage.isEnabled s))).2 = .ok outer)
    (hforward : ∀ g ∈ outer, (g.enter c r).1 = .forward r) {app : App} {response : Response}
    (h : (serveThrough c ((p.destination app r).handler r.method) back r).outcome
      = .answered response) :
    (p.serve app c r).outcome
      = .answered ((p.destination app r).finish r.method (s.dressed r response)) := by
  show (serveThrough c _ p.gates r).outcome.mapResponse _ = _
  rw [hp, serveThrough_append_outcome hforward, h,
    Startup.leaving_answered (fun st hst => (List.mem_filter.1 hst).1) houter,
    Settings.foldr_dress]
  rfl

/-- Whoever arrives behind the gates of admission was admitted there. -/
theorem arriving_admission_iff (hon : s.token.enabled = true ∨ s.token.requiredGroup ≠ "")
    (hcontext : r.context = none)
    (houter : (Startup.gatesStep s supplied around
      (Stage.outer.filter (Stage.isEnabled s))).2 = .ok outer)
    (hadmission : (Startup.gatesStep s supplied around
      (Stage.admission.filter (Stage.isEnabled s))).2 = .ok admission) {r' : Request} :
    arriving c (outer ++ admission) r = some r' ↔ s.token.enabled = true ∧ ¬ s.AnswersOutside r
      ∧ ∃ a, Admits s (Startup.judgeOf s.token supplied) c.now r a
        ∧ r' = r.withContext ⟨s.token.userProperty, a⟩ := by
  rw [arriving_append]
  by_cases houtside : s.AnswersOutside r
  · rw [Startup.arriving_of_answers (fun stage hstage => (List.mem_filter.1 hstage).1) houter
      (Settings.answersOutside_iff.1 houtside)]
    exact ⟨fun h => absurd h (by simp), fun h => absurd houtside h.2.1⟩
  · rw [arriving_of_forall (forward_of_not_answersOutside houter houtside), Option.bind_some]
    rcases Startup.admission_cases (c := c) hadmission hon hcontext with
      ⟨henabled, hadmits, harrives⟩ | ⟨hrefused, hnone, -, -⟩
    · rw [harrives]
      constructor
      · intro h
        exact ⟨henabled, houtside, _, hadmits, (Option.some.inj h).symm⟩
      · rintro ⟨-, -, b, hb, rfl⟩
        rw [hadmits.unique hb]
    · rw [hnone]
      constructor
      · intro h
        exact absurd h (by simp)
      · rintro ⟨henabled, -, b, hb, -⟩
        exact absurd ⟨henabled, b, hb⟩ hrefused

end Parts

section Whole

variable {supplied : Collaborators} {around : Surroundings} {p : Pipeline}

/-- A client's request arrives at the static files exactly when it is admitted and not answered
further out, and it carries the context of its admission. -/
theorem arrivingAt_static_iff (hbuild : (build s supplied around).2 = .ok p)
    (hon : s.token.enabled = true ∨ s.token.requiredGroup ≠ "") (c : Conditions)
    (hcontext : r.context = none) (r' : Request) :
    p.arrivingAt c .static r = some r' ↔ s.token.enabled = true ∧ ¬ s.AnswersOutside r
      ∧ ∃ a, Admits s (Startup.judgeOf s.token supplied) c.now r a
        ∧ r' = r.withContext ⟨s.token.userProperty, a⟩ := by
  obtain ⟨outer, admission, inner, hp, houter, hadmission, hinner⟩ := gates_of_build hbuild
  rw [arrivingAt, hp, takeWhile_stage (by decide) houter hadmission, takeWhile_static hinner,
    List.append_nil]
  exact arriving_admission_iff hon hcontext houter hadmission

/-- What arrives at the profiling pages or at the application was admitted, and carries the context
of its admission. -/
theorem admits_of_arriving (hbuild : (build s supplied around).2 = .ok p)
    (hon : s.token.enabled = true ∨ s.token.requiredGroup ≠ "") (c : Conditions)
    (hcontext : r.context = none) (r' : Request)
    (hr' : p.arrivingAt c .profiling r = some r' ∨ arriving c p.gates r = some r') :
    s.token.enabled = true ∧ ∃ a, Admits s (Startup.judgeOf s.token supplied) c.now r a
      ∧ r'.context = some ⟨s.token.userProperty, a⟩ := by
  obtain ⟨outer, admission, inner, hp, houter, hadmission, hinner⟩ := gates_of_build hbuild
  -- behind admission the context stays what it is
  have hinside : ∀ front back, inner = front ++ back →
      arriving c (outer ++ (admission ++ front)) r = some r' →
      s.token.enabled = true ∧ ∃ a, Admits s (Startup.judgeOf s.token supplied) c.now r a
        ∧ r'.context = some ⟨s.token.userProperty, a⟩ := by
    intro front back hfront hr'
    rw [← List.append_assoc, arriving_append] at hr'
    obtain ⟨r₀, hr₀, hr'⟩ := Option.bind_eq_some_iff.1 hr'
    obtain ⟨henabled, -, a, hadmits, rfl⟩ :=
      (arriving_admission_iff hon hcontext houter hadmission).1 hr₀
    refine ⟨henabled, a, hadmits, ?_⟩
    rw [Startup.context_of_arriving_inner (fun st hst => (List.mem_filter.1 hst).1) hinner hfront
      hr']
    rfl
  rcases hr' with hr' | hr'
  · rw [arrivingAt, hp, takeWhile_stage (by decide) houter hadmission] at hr'
    exact hinside _ _ List.takeWhile_append_dropWhile.symm hr'
  · rw [hp] at hr'
    exact hinside inner [] (List.append_nil inner).symm hr'

/-- A request that is neither admitted nor answered further out gets the one answer of the gates of
admission, which is delivered as the rejection that the settings ask for. -/
theorem outcome_of_not_admits (hbuild : (build s supplied around).2 = .ok p)
    (hon : s.token.enabled = true ∨ s.token.requiredGroup ≠ "") (c : Conditions)
    (hcontext : r.context = none) (houtside : ¬ s.AnswersOutside r)
    (hrefused : ¬ (s.token.enabled = true
      ∧ ∃ a, Admits s (Startup.judgeOf s.token supplied) c.now r a)) :
    ∃ answer, Startup.responder s.token = .ok answer ∧ ∀ app,
      (p.serve app c r).outcome
        = .answered ((p.destination app r).finish r.method (s.dressed r answer.response))
      ∧ s.token.IsRejection ((p.destination app r).answersHead r.method)
        ((p.destination app r).finish r.method (s.dressed r answer.response)) := by
  obtain ⟨outer, admission, inner, hp, houter, hadmission, -⟩ := gates_of_build hbuild
  have hforward := forward_of_not_answersOutside (c := c) houter houtside
  rcases Startup.admission_cases (c := c) hadmission hon hcontext with
    ⟨henabled, hadmits, -⟩ | ⟨-, -, hanswer, houtcome⟩
  · exact absurd ⟨henabled, _, hadmits⟩ hrefused
  · exact ⟨_, hanswer, fun app => ⟨outcome_of_answered hp houter hforward (houtcome _ inner),
      (Startup.isRejection_of_responder hanswer).delivered⟩⟩

/-- What does not arrive at a stage does not arrive at the application. -/
theorem arriving_of_arrivingAt_none {c : Conditions} {stage : Stage}
    (h : p.arrivingAt c stage r = none) : arriving c p.gates r = none := by
  rw [← List.takeWhile_append_dropWhile (p := fun g => g.stage ≠ stage) (l := p.gates),
    arriving_append]
  rw [arrivingAt] at h
  rw [h, Option.bind_none]

end Whole

/-- In a pipeline that asks for tokens or for a group, a client's request arrives at the static
files exactly when it is admitted and not answered further out, and it carries the context of its
admission; what arrives at the profiling pages or at the application was admitted; and a request
that is neither admitted nor answered further out gets the one answer of the gates of admission, as
the rejection that the settings ask for. -/
theorem admission {s : Settings} {supplied : Collaborators} {around : Surroundings} {p : Pipeline}
    (hbuild : (build s supplied around).2 = .ok p)
    (hon : s.token.enabled = true ∨ s.token.requiredGroup ≠ "") (c : Conditions) {r : Request}
    (hcontext : r.context = none) :
    (∀ r', p.arrivingAt c .static r = some r' ↔ s.token.enabled = true ∧ ¬ s.AnswersOutside r
      ∧ ∃ a, Admits s (Startup.judgeOf s.token supplied) c.now r a
        ∧ r' = r.withContext ⟨s.token.userProperty, a⟩)
    ∧ (∀ r', p.arrivingAt c .profiling r = some r' ∨ arriving c p.gates r = some r' →
      s.token.enabled = true ∧ ∃ a, Admits s (Startup.judgeOf s.token supplied) c.now r a
        ∧ r'.context = some ⟨s.token.userProperty, a⟩)
    ∧ (¬ s.AnswersOutside r → ¬ (s.token.enabled = true
        ∧ ∃ a, Admits s (Startup.judgeOf s.token supplied) c.now r a) →
      ∃ answer, Startup.responder s.token = .ok answer ∧ ∀ app,
        (p.serve app c r).outcome
          = .answered ((p.destination app r).finish r.method (s.dressed r answer.response))
        ∧ s.token.IsRejection ((p.destination app r).answersHead r.method)
          ((p.destination app r).finish r.method (s.dressed r answer.response))) := by
  refine ⟨?_, ?_, ?_⟩
  · exact arrivingAt_static_iff hbuild hon c hcontext
  · exact admits_of_arriving hbuild hon c hcontext
  · exact outcome_of_not_admits hbuild hon c hcontext

/-- A process with nothing around it. -/
def bareSurroundings : Surroundings where
  network := fun _ _ => .ok ()
  recorderInstalled := false
  directory := fun _ => .empty 0
  server := ⟨[], 1, 1⟩
  now := 0
  nowText := ""

/-- A request that submits something. -/
def submission (target : String) : Request :=
  ⟨"POST", .relative target none, [], [], none⟩

/-- Variables that ask for tokens and leave everything else at its default. -/
def tokenVariables : Environment := fun name =>
  if name = "JWT_AUTH_ENABLED" then some "true" else none

/-- A pipeline can be built from these variables. -/
theorem exists_build_tokenVariables {s : Settings} (h : Settings.load tokenVariables = .ok s) :
    ∃ p, (build s .none bareSurroundings).2 = .ok p := by
  obtain rfl := Except.ok.inj h
  exact ⟨_, rfl⟩

/-- The health check of a client without a token. -/
def healthRequest : Request :=
  ⟨"GET", .relative "/api/v1/health" none, [], [], none⟩

/-- By default the health check is let in, as whitelisted. -/
theorem admission_healthRequest :
    ∃ s p, Settings.load tokenVariables = .ok s ∧ (build s .none bareSurroundings).2 = .ok p
      ∧ s.token.enabled = true ∧ healthRequest.context = none
      ∧ p.arrivingAt ⟨1000, ⟨0, 0⟩, .empty []⟩ .static healthRequest
        = some (healthRequest.withContext ⟨"user", .whitelisted⟩) := by
  have hload : ∃ s, Settings.load tokenVariables = .ok s ∧ s.token.enabled = true
      ∧ s.token.userProperty = "user" ∧ s.prometheus.enabled = false
      ∧ s.isOpen healthRequest = true := ⟨_, rfl, rfl, rfl, rfl, rfl⟩
  obtain ⟨s, hs, henabled, huser, hprometheus, hopen⟩ := hload
  obtain ⟨p, hp⟩ := exists_build_tokenVariables hs
  refine ⟨s, p, hs, hp, henabled, rfl, ?_⟩
  refine ((admission hp (Or.inl henabled) _ rfl).1 _).2
    ⟨henabled, ?_, .whitelisted, .whitelisted hopen, by rw [huser]⟩
  rintro (⟨h, -⟩ | ⟨-, h⟩)
  · rw [hprometheus] at h
    exact absurd h (by decide)
  · exact absurd h (by decide)

end Pipeline

end AuthGateway
