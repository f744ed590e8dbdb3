import AuthGateway.Pipeline.Startup
import AuthGateway.Proofs.Control.Steps
import AuthGateway.Proofs.Gate.Chain
import AuthGateway.Proofs.Token.Soundness
import Mathlib.Tactic.SplitIfs

/-!
# How a pipeline is put together

The gates of a pipeline are those of its stages, in their order (`gates_of_build`), and the stages
fall into three parts: those outside admission, those of admission, and those inside.  Gates set up
for stages in a row are gates set up for the one part and then for the other
(`gatesStep_append_eq_ok`), so each part is looked at on its own.

The gates outside let every request through as it is, unless it is a scrape or a preflight
(`forward_of_not_answers`, `arriving_of_answers`), and they only change an answer to compress it and
to show it to other origins (`leaving_answered`, `Settings.foldr_dress`).  The gates of admission are
at most two, and share one rejection (`isAdmission_of_gatesStep`).  The gates inside keep the context
of a request (`context_of_arriving_inner`).
-/

namespace AuthGateway

/-! ### Parts of the chain -/

namespace Stage

/-- The stages outside admission. -/
def outer : List Stage :=
  [recovery, compression, verboseLogging, statsd, prometheus, apm, cors]

/-- The stages of admission. -/
def admission : List Stage :=
  [auth, groupClaim]

/-- The stages inside admission. -/
def inner : List Stage :=
  [static, profiling, stripPrefix]

/-- The stages are those of the three parts. -/
theorem all_eq : all = outer ++ (admission ++ inner) :=
  rfl

end Stage

/-- The stages that the settings ask for, part by part. -/
theorem Settings.stages_eq (s : Settings) :
    s.stages = Stage.outer.filter (Stage.isEnabled s)
      ++ (Stage.admission.filter (Stage.isEnabled s)
        ++ Stage.inner.filter (Stage.isEnabled s)) := by
  rw [stages, Stage.all_eq, List.filter_append, List.filter_append]

namespace Startup

variable {s : Settings} {supplied : Collaborators} {around : Surroundings}

/-! ### Gates of stages -/

theorem gatesStep_cons_eq_ok {stage : Stage} {stages : List Stage} {gates : List Gate} :
    (gatesStep s supplied around (stage :: stages)).2 = .ok gates ↔
      ∃ gate rest, (gateStep s supplied around stage).2 = .ok gate
        ∧ (gatesStep s supplied around stages).2 = .ok rest ∧ gates = gate :: rest := by
  rw [gatesStep]
  cases hgate : gateStep s supplied around stage with
  | mk log result =>
    cases result with
    | error e => simp
    | ok gate =>
      cases hrest : gatesStep s supplied around stages with
      | mk log' rest =>
        cases rest with
        | error e => simp [Except.map]
        | ok rest => simp [Except.map, eq_comm]

/-- Gates for stages in a row are gates for the first of them and gates for the others. -/
theorem gatesStep_append_eq_ok {front back : List Stage} {gates : List Gate} :
    (gatesStep s supplied around (front ++ back)).2 = .ok gates ↔
      ∃ gatesFront gatesBack, (gatesStep s supplied around front).2 = .ok gatesFront
        ∧ (gatesStep s supplied around back).2 = .ok gatesBack
        ∧ gates = gatesFront ++ gatesBack := by
  induction front generalizing gates with
  | nil =>
    constructor
    · intro h
      exact ⟨[], gates, rfl, h, rfl⟩
    · rintro ⟨gatesFront, gatesBack, hfront, hback, rfl⟩
      obtain rfl : [] = gatesFront := Except.ok.inj hfront
      exact hback
  | cons stage front ih =>
    rw [List.cons_append, gatesStep_cons_eq_ok]
    constructor
    · rintro ⟨gate, rest, hgate, hrest, rfl⟩
      obtain ⟨gatesFront, gatesBack, hfront, hback, rfl⟩ := ih.1 hrest
      exact ⟨gate :: gatesFront, gatesBack, gatesStep_cons_eq_ok.2 ⟨gate, gatesFront, hgate, hfront,
        rfl⟩, hback, rfl⟩
    · rintro ⟨gatesFront, gatesBack, hfront, hback, rfl⟩
      obtain ⟨gate, rest, hgate, hrest, rfl⟩ := gatesStep_cons_eq_ok.1 hfront
      exact ⟨gate, rest ++ gatesBack, hgate, ih.2 ⟨rest, gatesBack, hrest, hback, rfl⟩, rfl⟩

/-- Gates that can be set up one by one can be set up together. -/
theorem exists_gatesStep {stages : List Stage}
    (h : ∀ stage ∈ stages, ∃ gate, (gateStep s supplied around stage).2 = .ok gate) :
    ∃ gates, (gatesStep s supplied around stages).2 = .ok gates := by
  induction stages with
  | nil => exact ⟨[], rfl⟩
  | cons stage stages ih =>
    obtain ⟨gate, hgate⟩ := h stage List.mem_cons_self
    obtain ⟨rest, hrest⟩ := ih fun st hst => h st (List.mem_cons_of_mem stage hst)
    exact ⟨gate :: rest, gatesStep_cons_eq_ok.2 ⟨gate, rest, hgate, hrest, rfl⟩⟩

/-- The gate of a stage stands at that stage. -/
theorem stage_of_gateStep {stage : Stage} {gate : Gate}
    (h : (gateStep s supplied around stage).2 = .ok gate) : gate.stage = stage := by
  cases stage with
  | statsd | prometheus | auth | groupClaim =>
    obtain ⟨a, -, rfl⟩ := exists_of_map_eq_ok h
    rfl
  | recovery | compression | verboseLogging | apm | cors | static | profiling | stripPrefix =>
    obtain rfl := Except.ok.inj h
    rfl

/-- Every gate was set up for one of the stages. -/
theorem exists_gateStep_of_mem {stages : List Stage} {gates : List Gate}
    (h : (gatesStep s supplied around stages).2 = .ok gates) {g : Gate} (hg : g ∈ gates) :
    ∃ stage ∈ stages, (gateStep s supplied around stage).2 = .ok g := by
  induction stages generalizing gates with
  | nil =>
    obtain rfl : [] = gates := Except.ok.inj h
    exact absurd hg List.not_mem_nil
  | cons stage stages ih =>
    obtain ⟨gate, rest, hgate, hrest, rfl⟩ := gatesStep_cons_eq_ok.1 h
    rcases List.mem_cons.1 hg with rfl | hg
    · exact ⟨stage, List.mem_cons_self, hgate⟩
    · obtain ⟨stage', hstage', hgate'⟩ := ih hrest hg
      exact ⟨stage', List.mem_cons_of_mem stage hstage', hgate'⟩

/-- Gates stand at stages that they were set up for. -/
theorem stage_mem_of_gatesStep {stages : List Stage} {gates : List Gate}
    (h : (gatesStep s supplied around stages).2 = .ok gates) {g : Gate} (hg : g ∈ gates) :
    g.stage ∈ stages := by
  obtain ⟨stage, hstage, hgate⟩ := exists_gateStep_of_mem h hg
  rw [stage_of_gateStep hgate]
  exact hstage

/-- Gates that were set up where they are enabled stand at stages of the row. -/
theorem stage_mem_of_enabled {stages : List Stage} {gates : List Gate}
    (h : (gatesStep s supplied around (stages.filter (Stage.isEnabled s))).2 = .ok gates)
    {g : Gate} (hg : g ∈ gates) : g.stage ∈ stages :=
  (List.mem_filter.1 (stage_mem_of_gatesStep h hg)).1

/-- Gates stand at the stages that they were set up for, in their order. -/
theorem stages_of_gatesStep {stages : List Stage} {gates : List Gate}
    (h : (gatesStep s supplied around stages).2 = .ok gates) : gates.map Gate.stage = stages := by
  induction stages generalizing gates with
  | nil =>
    obtain rfl : [] = gates := Except.ok.inj h
    rfl
  | cons stage stages ih =>
    obtain ⟨gate, rest, hgate, hrest, rfl⟩ := gatesStep_cons_eq_ok.1 h
    rw [List.map_cons, stage_of_gateStep hgate, ih hrest]

end Startup

/-! ### Outside admission -/

/-- Whether the gate of a stage outside answers a request: scrapes and preflights are. -/
def Stage.Answers (s : Settings) (r : Request) : Stage → Prop
  | .prometheus => r.path = s.prometheus.path
  | .cors => r.method = "OPTIONS"
  | _ => False

/-- What the gate of a stage outside does to an answer: it compresses it, or shows it to other
origins. -/
def Stage.dress (r : Request) : Stage → Response → Response
  | .compression => ContentCoding.apply r.headers
  | .cors => CrossOrigin.expose r
  | _ => id

namespace Startup

variable {s : Settings} {supplied : Collaborators} {around : Surroundings} {c : Conditions}
  {r : Request}

/-- A gate outside lets a request through as it is, unless it answers it. -/
theorem enter_of_not_answers {stage : Stage} {gate : Gate} (hstage : stage ∈ Stage.outer)
    (h : (gateStep s supplied around stage).2 = .ok gate) (hr : ¬ stage.Answers s r) :
    (gate.enter c r).1 = .forward r := by
  cases stage with
  | recovery | compression | verboseLogging | apm =>
    obtain rfl := Except.ok.inj h
    rfl
  | statsd =>
    obtain ⟨client, -, rfl⟩ := exists_of_map_eq_ok h
    rfl
  | prometheus =>
    obtain ⟨_, -, rfl⟩ := exists_of_map_eq_ok h
    have hpath : r.path ≠ s.prometheus.path := hr
    rw [Gate.enter, Gate.scrapeAnswer?, if_neg hpath]
    rfl
  | cors =>
    obtain rfl := Except.ok.inj h
    have hmethod : CrossOrigin.isPreflight r = false := decide_eq_false hr
    rw [Gate.enter, CrossOrigin.preflight?, hmethod]
    rfl
  | auth | groupClaim | static | profiling | stripPrefix => exact absurd hstage (by decide)

/-- A gate outside that answers a request lets it go no further. -/
theorem enter_of_answers {stage : Stage} {gate : Gate}
    (h : (gateStep s supplied around stage).2 = .ok gate) (hr : stage.Answers s r) :
    ∃ outcome, (gate.enter c r).1 = .settled outcome := by
  cases stage with
  | prometheus =>
    obtain ⟨_, -, rfl⟩ := exists_of_map_eq_ok h
    have hpath : r.path = s.prometheus.path := hr
    rw [Gate.enter, Gate.scrapeAnswer?, if_pos hpath]
    exact ⟨_, rfl⟩
  | cors =>
    obtain rfl := Except.ok.inj h
    have hmethod : CrossOrigin.isPreflight r = true := decide_eq_true hr
    rw [Gate.enter, CrossOrigin.preflight?, hmethod]
    exact ⟨_, rfl⟩
  | recovery | compression | verboseLogging | statsd | apm | auth | groupClaim | static
  | profiling | stripPrefix => exact absurd hr id

/-- The gates outside let a request through as it is when none of them answers it. -/
theorem forward_of_not_answers {stages : List Stage} {gates : List Gate}
    (hstages : ∀ stage ∈ stages, stage ∈ Stage.outer)
    (h : (gatesStep s supplied around stages).2 = .ok gates)
    (hr : ∀ stage ∈ stages, ¬ stage.Answers s r) : ∀ g ∈ gates, (g.enter c r).1 = .forward r := by
  intro g hg
  obtain ⟨stage, hstage, hgate⟩ := exists_gateStep_of_mem h hg
  exact enter_of_not_answers (hstages stage hstage) hgate (hr stage hstage)

/-- Nothing arrives behind the gates outside when one of them answers. -/
theorem arriving_of_answers {stages : List Stage} {gates : List Gate}
    (hstages : ∀ stage ∈ stages, stage ∈ Stage.outer)
    (h : (gatesStep s supplied around stages).2 = .ok gates)
    (hr : ∃ stage ∈ stages, stage.Answers s r) : arriving c gates r = none := by
  induction stages generalizing gates with
  | nil =>
    obtain ⟨stage, hstage, -⟩ := hr
    exact absurd hstage List.not_mem_nil
  | cons stage stages ih =>
    obtain ⟨gate, rest, hgate, hrest, rfl⟩ := gatesStep_cons_eq_ok.1 h
    by_cases hanswers : stage.Answers s r
    · -- this gate answers, whatever lies behind it
      obtain ⟨outcome, henter⟩ := enter_of_answers hgate hanswers
      exact arriving_of_settled henter rest
    · have henter := enter_of_not_answers (c := c) (hstages stage List.mem_cons_self) hgate hanswers
      rw [arriving_of_forward henter rest]
      refine ih (fun st hst => hstages st (List.mem_cons_of_mem stage hst)) hrest ?_
      obtain ⟨st, hst, hst'⟩ := hr
      rcases List.mem_cons.1 hst with rfl | hst
      · exact absurd hst' hanswers
      · exact ⟨st, hst, hst'⟩

/-- What a gate outside does to an answer. -/
theorem leave_answered {stage : Stage} {gate : Gate} (hstage : stage ∈ Stage.outer)
    (h : (gateStep s supplied around stage).2 = .ok gate) (response : Response) :
    (gate.leave c r (.answered response)).1 = .answered (stage.dress r response) := by
  cases stage with
  | recovery | compression | verboseLogging | apm | cors =>
    obtain rfl := Except.ok.inj h
    rfl
  | statsd | prometheus =>
    obtain ⟨_, -, rfl⟩ := exists_of_map_eq_ok h
    rfl
  | auth | groupClaim | static | profiling | stripPrefix => exact absurd hstage (by decide)

/-- What the gates outside do to an answer. -/
theorem leaving_answered {stages : List Stage} {gates : List Gate}
    (hstages : ∀ stage ∈ stages, stage ∈ Stage.outer)
    (h : (gatesStep s supplied around stages).2 = .ok gates) (response : Response) :
    leaving c r gates (.answered response)
      = .answered (stages.foldr (fun stage => stage.dress r) response) := by
  induction stages generalizing gates with
  | nil =>
    obtain rfl : [] = gates := Except.ok.inj h
    rfl
  | cons stage stages ih =>
    obtain ⟨gate, rest, hgate, hrest, rfl⟩ := gatesStep_cons_eq_ok.1 h
    have hinner := ih (fun st hst => hstages st (List.mem_cons_of_mem stage hst)) hrest
    rw [leaving, List.foldr_cons, List.foldr_cons]
    rw [leaving] at hinner
    rw [hinner, leave_answered (hstages stage List.mem_cons_self) hgate]

end Startup

/-- An answer as it leaves through the gates outside admission. -/
def Settings.dressed (s : Settings) (r : Request) (response : Response) : Response :=
  let shown := if s.corsEnabled then CrossOrigin.expose r response else response
  if s.gzipEnabled then ContentCoding.apply r.headers shown else shown

/-- The stages outside that the settings ask for dress an answer. -/
theorem Settings.foldr_dress (s : Settings) (r : Request) (response : Response) :
    (Stage.outer.filter (Stage.isEnabled s)).foldr (fun stage => stage.dress r) response
      = s.dressed r response := by
  -- a stage that leaves answers alone makes no difference, enabled or not
  have hplain (stage : Stage) (hdress : stage.dress r = id) (y : Response) :
      (if Stage.isEnabled s stage then stage.dress r y else y) = y := by
    rw [hdress, id_eq, ite_self]
  rw [List.foldr_filter]
  simp only [Stage.outer, List.foldr_cons, List.foldr_nil, hplain .recovery rfl,
    hplain .verboseLogging rfl, hplain .statsd rfl, hplain .prometheus rfl, hplain .apm rfl]
  rfl

/-! ### Admission -/

namespace Startup

variable {s : Settings} {supplied : Collaborators} {around : Surroundings}

/-- The judge of tokens: the one that is supplied, or the verifier over the configured key. -/
def judgeOf (s : TokenSettings) (supplied : Collaborators) : TokenJudge :=
  supplied.judge.getD (Verifier.ofSecret s.signingMethod s.secret s.clockSkew s.debug).judge

theorem judge_of_judgeStep {t : TokenSettings} {judge : TokenJudge}
    (h : (judgeStep t supplied).2 = .ok judge) : judge = judgeOf t supplied := by
  unfold judgeStep at h
  unfold judgeOf
  split at h
  · rename_i supplied' hsupplied
    rw [hsupplied, Option.getD_some]
    exact (Except.ok.inj h).symm
  · rename_i hnone
    obtain ⟨verifier, hverifier, rfl⟩ := exists_of_map_eq_ok h
    split at hverifier
    · obtain rfl := Except.ok.inj hverifier
      rw [hnone]
      rfl
    · exact absurd hverifier (by simp)

/-- The gate that asks for a token. -/
theorem auth_of_gateStep {gate : Gate} (h : (gateStep s supplied around .auth).2 = .ok gate) :
    ∃ r, responder s.token = .ok r ∧ gate = .auth (tokenGate s (judgeOf s.token supplied) r) := by
  obtain ⟨g, hg, rfl⟩ := exists_of_map_eq_ok h
  split at hg
  · exact absurd hg (by simp)
  · rename_i log judge hjudge
    split at hg
    · exact absurd hg (by simp)
    · rename_i r hr
      obtain rfl := Except.ok.inj hg
      have hjudge' : judge = judgeOf s.token supplied := judge_of_judgeStep (by rw [hjudge])
      exact ⟨r, hr, by rw [hjudge']⟩

/-- The gate that asks for a token can be set up over a shared secret. -/
theorem exists_gateStep_auth (hmethod : s.token.signingMethod = .hs256) {answer : Responder}
    (hanswer : responder s.token = .ok answer) :
    ∃ gate, (gateStep s .none around .auth).2 = .ok gate := by
  obtain ⟨judge, hjudge⟩ : ∃ judge, (judgeStep s.token .none).2 = .ok judge := by
    unfold judgeStep verifierStep KeyMaterial.resolve
    rw [hmethod]
    exact ⟨_, rfl⟩
  unfold gateStep tokenGateStep
  cases hstep : judgeStep s.token .none with
  | mk log result =>
    obtain rfl : result = .ok judge := by rw [← hjudge, hstep]
    rw [hanswer]
    exact ⟨_, rfl⟩

/-- The gate that asks for a group. -/
theorem groupClaim_of_gateStep {gate : Gate}
    (h : (gateStep s supplied around .groupClaim).2 = .ok gate) :
    ∃ r, responder s.token = .ok r ∧ gate = .groupClaim ⟨s.token.requiredGroup, r⟩ := by
  obtain ⟨r, hr, rfl⟩ := exists_of_map_eq_ok h
  exact ⟨r, hr, rfl⟩

/-- The gates of admission that settings ask for, over a judge of tokens.  Where there are two, both
have the one rejection. -/
inductive IsAdmission (s : Settings) (judge : TokenJudge) : List Gate → Prop where
  | off (henabled : s.token.enabled = false) (hgroup : s.token.requiredGroup = "") :
    IsAdmission s judge []
  | token {answer : Responder} (henabled : s.token.enabled = true)
    (hgroup : s.token.requiredGroup = "") (hanswer : responder s.token = .ok answer) :
    IsAdmission s judge [.auth (tokenGate s judge answer)]
  | group {answer : Responder} (henabled : s.token.enabled = false)
    (hgroup : s.token.requiredGroup ≠ "") (hanswer : responder s.token = .ok answer) :
    IsAdmission s judge [.groupClaim ⟨s.token.requiredGroup, answer⟩]
  | both {answer : Responder} (henabled : s.token.enabled = true)
    (hgroup : s.token.requiredGroup ≠ "") (hanswer : responder s.token = .ok answer) :
    IsAdmission s judge
      [.auth (tokenGate s judge answer), .groupClaim ⟨s.token.requiredGroup, answer⟩]

/-- The gate that asks for a group is there when a group is required. -/
theorem gatesStep_groupClaim {gates : List Gate} (hgroup : s.token.requiredGroup ≠ "")
    (h : (gatesStep s supplied around ([.groupClaim].filter (Stage.isEnabled s))).2 = .ok gates) :
    ∃ answer, responder s.token = .ok answer
      ∧ gates = [.groupClaim ⟨s.token.requiredGroup, answer⟩] := by
  rw [List.filter_cons_of_pos (show Stage.isEnabled s .groupClaim = true from bne_iff_ne.2 hgroup)]
    at h
  obtain ⟨gate, rest, hgate, hrest, rfl⟩ := gatesStep_cons_eq_ok.1 h
  obtain rfl : [] = rest := Except.ok.inj hrest
  obtain ⟨answer, hanswer, rfl⟩ := groupClaim_of_gateStep hgate
  exact ⟨answer, hanswer, rfl⟩

/-- There are no gates behind the one that asks for a token when no group is required. -/
theorem gatesStep_no_group {gates : List Gate} (hgroup : s.token.requiredGroup = "")
    (h : (gatesStep s supplied around ([.groupClaim].filter (Stage.isEnabled s))).2 = .ok gates) :
    gates = [] := by
  have hoff : ¬ Stage.isEnabled s .groupClaim = true := by
    rw [Stage.isEnabled, hgroup]
    decide
  rw [List.filter_cons_of_neg hoff] at h
  exact (Except.ok.inj h).symm

/-- The gates of admission are those that the settings ask for. -/
theorem isAdmission_of_gatesStep {gates : List Gate}
    (h : (gatesStep s supplied around (Stage.admission.filter (Stage.isEnabled s))).2 = .ok gates) :
    IsAdmission s (judgeOf s.token supplied) gates := by
  rw [Stage.admission] at h
  by_cases henabled : s.token.enabled = true
  · rw [List.filter_cons_of_pos (show Stage.isEnabled s .auth = true from henabled)] at h
    obtain ⟨gate, rest, hgate, hrest, rfl⟩ := gatesStep_cons_eq_ok.1 h
    obtain ⟨answer, hanswer, rfl⟩ := auth_of_gateStep hgate
    by_cases hgroup : s.token.requiredGroup = ""
    · obtain rfl := gatesStep_no_group hgroup hrest
      exact .token henabled hgroup hanswer
    · obtain ⟨answer', hanswer', rfl⟩ := gatesStep_groupClaim hgroup hrest
      obtain rfl : answer = answer' := Except.ok.inj (hanswer.symm.trans hanswer')
      exact .both henabled hgroup hanswer
  · rw [List.filter_cons_of_neg (show ¬ Stage.isEnabled s .auth = true from henabled)] at h
    have hdisabled : s.token.enabled = false := Bool.not_eq_true _ ▸ henabled
    by_cases hgroup : s.token.requiredGroup = ""
    · obtain rfl := gatesStep_no_group hgroup h
      exact .off hdisabled hgroup
    · obtain ⟨answer, hanswer, rfl⟩ := gatesStep_groupClaim hgroup h
      exact .group hdisabled hgroup hanswer

/-! ### Inside admission -/

/-- A gate inside keeps the context of a request that it lets through. -/
theorem context_of_enter {stage : Stage} {gate : Gate} (hstage : stage ∈ Stage.inner)
    (h : (gateStep s supplied around stage).2 = .ok gate) {c : Conditions} {r r' : Request}
    (henter : (gate.enter c r).1 = .forward r') : r'.context = r.context := by
  cases stage with
  | static =>
    obtain rfl := Except.ok.inj h
    rw [eq_of_enterSite henter]
  | profiling =>
    obtain rfl := Except.ok.inj h
    rw [eq_of_answerOr henter]
  | stripPrefix =>
    obtain rfl := Except.ok.inj h
    rw [← Passage.forward.inj henter]
  | recovery | compression | verboseLogging | statsd | prometheus | apm | cors | auth
  | groupClaim => exact absurd hstage (by decide)

/-- The gates inside keep the context of a request that arrives behind some of them. -/
theorem context_of_arriving_inner {stages : List Stage} {gates front back : List Gate}
    (hstages : ∀ stage ∈ stages, stage ∈ Stage.inner)
    (h : (gatesStep s supplied around stages).2 = .ok gates) (hgates : gates = front ++ back)
    {c : Conditions} {r r' : Request} (hr : arriving c front r = some r') :
    r'.context = r.context := by
  refine arriving_preserves (P := fun r₀ => r₀.context = r.context) ?_ rfl hr
  intro g hg r₀ r₁ hr₀ henter
  have hmem : g ∈ gates := hgates ▸ List.mem_append_left back hg
  obtain ⟨stage, hstage, hgate⟩ := exists_gateStep_of_mem h hmem
  exact (context_of_enter (hstages stage hstage) hgate henter).trans hr₀

end Startup

/-! ### The whole -/

/-- The gates of a pipeline are those of the stages that the settings ask for. -/
theorem Pipeline.gatesStep_of_build {s : Settings} {supplied : Collaborators}
    {around : Surroundings} {p : Pipeline} (h : (build s supplied around).2 = .ok p) :
    (Startup.gatesStep s supplied around s.stages).2 = .ok p.gates := by
  unfold build at h
  dsimp only at h
  split at h
  · exact absurd h (by simp)
  · rename_i log gates hgates
    rw [hgates, ← Except.ok.inj h]

/-- The gates of a pipeline, part by part. -/
theorem Pipeline.gates_of_build {s : Settings} {supplied : Collaborators} {around : Surroundings}
    {p : Pipeline} (h : (build s supplied around).2 = .ok p) :
    ∃ outer admission inner, p.gates = outer ++ (admission ++ inner)
      ∧ (Startup.gatesStep s supplied around
        (Stage.outer.filter (Stage.isEnabled s))).2 = .ok outer
      ∧ (Startup.gatesStep s supplied around
        (Stage.admission.filter (Stage.isEnabled s))).2 = .ok admission
      ∧ (Startup.gatesStep s supplied around
        (Stage.inner.filter (Stage.isEnabled s))).2 = .ok inner := by
  have hgates := gatesStep_of_build h
  rw [Settings.stages_eq] at hgates
  obtain ⟨outer, rest, houter, hrest, hp⟩ := Startup.gatesStep_append_eq_ok.1 hgates
  obtain ⟨admission, inner, hadmission, hinner, rfl⟩ := Startup.gatesStep_append_eq_ok.1 hrest
  exact ⟨outer, admission, inner, hp, houter, hadmission, hinner⟩

/-- A pipeline keeps the web prefix of its settings. -/
theorem Pipeline.webPrefix_of_build {s : Settings} {supplied : Collaborators}
    {around : Surroundings} {p : Pipeline} (h : (build s supplied around).2 = .ok p) :
    p.webPrefix = s.webPrefix := by
  unfold build at h
  dsimp only at h
  split at h
  · exact absurd h (by simp)
  · rw [← Except.ok.inj h]

/-- Over a shared secret, and without telemetry to set up, there is a pipeline. -/
theorem Pipeline.exists_build {s : Settings} {around : Surroundings}
    (hmethod : s.token.signingMethod = .hs256) {answer : Responder}
    (hanswer : Startup.responder s.token = .ok answer) (hstatsd : s.statsd.enabled = false)
    (hprometheus : s.prometheus.enabled = false) :
    ∃ p, (build s .none around).2 = .ok p := by
  have hgates : ∃ gates, (Startup.gatesStep s .none around s.stages).2 = .ok gates := by
    refine Startup.exists_gatesStep fun stage hstage => ?_
    have henabled := (List.mem_filter.1 hstage).2
    cases stage with
    | statsd =>
      rw [Stage.isEnabled, hstatsd] at henabled
      exact absurd henabled (by decide)
    | prometheus =>
      rw [Stage.isEnabled, hprometheus] at henabled
      exact absurd henabled (by decide)
    | auth => exact Startup.exists_gateStep_auth hmethod hanswer
    | groupClaim =>
      unfold Startup.gateStep
      rw [hanswer]
      exact ⟨_, rfl⟩
    | recovery | compression | verboseLogging | apm | cors | static | profiling | stripPrefix =>
      exact ⟨_, rfl⟩
  obtain ⟨gates, hgates⟩ := hgates
  unfold build
  dsimp only
  split
  · rename_i log e herror
    rw [herror] at hgates
    exact absurd hgates (by simp)
  · exact ⟨_, rfl⟩

end AuthGateway
