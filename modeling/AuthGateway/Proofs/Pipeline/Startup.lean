import AuthGateway.Proofs.Http.HeaderValue
import AuthGateway.Proofs.Pipeline.Admission
import AuthGateway.Proofs.Settings.Load

/-!
# Which settings stop the startup

Stages are set up one after the other, so what stops them is what stops the first of them that
cannot be set up (`Startup.stopped?_gatesStep`).  Three stages depend on more than the settings: the
statsd agent may be out of reach, the process may have a recorder already, and the secret may be no
key.  All others can be set up, also those that reject requests, as every redirect URL that was
loaded may stand in a field (`Startup.responder_of_load`).  So the startup fails for one of three
reasons, looked for in the order of the stages (`Pipeline.build_eq_error_iff`), or there is a
pipeline with a gate for every stage (`Pipeline.exists_build_of_not_fails`).
-/

namespace AuthGateway

namespace Startup

variable {s : Settings} {supplied : Collaborators} {around : Surroundings}

/-! ### What stops a step -/

/-- What stops a step, if anything does. -/
def stopped? {α : Type} : Except StartupError α → Option StartupError
  | .error e => some e
  | .ok _ => none

@[simp]
theorem stopped?_map {α β : Type} (f : α → β) (x : Except StartupError α) :
    stopped? (x.map f) = stopped? x := by
  cases x <;> rfl

theorem stopped?_eq_some_iff {α : Type} {x : Except StartupError α} {e : StartupError} :
    stopped? x = some e ↔ x = .error e := by
  cases x <;> simp [stopped?]

theorem stopped?_eq_none_iff {α : Type} {x : Except StartupError α} :
    stopped? x = none ↔ ∃ a, x = .ok a := by
  cases x <;> simp [stopped?]

/-- Stages are stopped by what stops the first of them that cannot be set up. -/
theorem stopped?_gatesStep (stages : List Stage) :
    stopped? (gatesStep s supplied around stages).2
      = stages.findSome? fun stage => stopped? (gateStep s supplied around stage).2 := by
  induction stages with
  | nil => rfl
  | cons stage stages ih =>
    rw [gatesStep, List.findSome?_cons, ← ih]
    cases hgate : gateStep s supplied around stage with
    | mk log result =>
      cases result with
      | error e => rfl
      | ok gate => exact stopped?_map (gate :: ·) _

/-- A pipeline is stopped by what stops its stages. -/
theorem stopped?_build :
    stopped? (Pipeline.build s supplied around).2
      = stopped? (gatesStep s supplied around s.stages).2 := by
  unfold Pipeline.build
  dsimp only
  cases hgates : gatesStep s supplied around s.stages with
  | mk log result =>
    cases result with
    | error e => rfl
    | ok gates => rfl

/-! ### The stages that may fail -/

/-- Whether the statsd agent is asked for, no client is supplied, and connecting fails. -/
def StatsdFails (s : Settings) (supplied : Collaborators) (around : Surroundings)
    (cause : ConnectError) : Prop :=
  s.statsd.enabled = true ∧ supplied.statsd = none
    ∧ StatsdClient.connect around.network s.statsd.host s.statsd.port s.statsd.namePrefix
      = .error cause

/-- Whether metrics are asked for, no recorder is supplied, and the process has one already. -/
def RecorderFails (s : Settings) (supplied : Collaborators) (around : Surroundings) : Prop :=
  s.prometheus.enabled = true ∧ supplied.recorder = none ∧ around.recorderInstalled = true

/-- Whether tokens are asked for, no judge is supplied, and the secret holds no RSA key although
one is needed. -/
def KeyFails (s : Settings) (supplied : Collaborators) (cause : KeyError) : Prop :=
  s.token.enabled = true ∧ supplied.judge = none ∧ s.token.signingMethod = .rs256
    ∧ RsaDocument.read s.token.secret = .error cause

theorem stopped?_statsd {e : StartupError} :
    stopped? (gateStep s supplied around .statsd).2 = some e
      ↔ ∃ cause, e = .statsd cause ∧ supplied.statsd = none
        ∧ StatsdClient.connect around.network s.statsd.host s.statsd.port s.statsd.namePrefix
          = .error cause := by
  have hstep : stopped? (gateStep s supplied around .statsd).2
      = stopped? (statsdStep s supplied around).2 := stopped?_map _ _
  rw [hstep, stopped?_eq_some_iff, statsdStep]
  cases hsupplied : supplied.statsd with
  | some client => simp
  | none =>
    cases StatsdClient.connect around.network s.statsd.host s.statsd.port s.statsd.namePrefix with
    | ok client => simp
    | error cause => simp [eq_comm]

theorem stopped?_prometheus {e : StartupError} :
    stopped? (gateStep s supplied around .prometheus).2 = some e
      ↔ e = .recorderInstalled ∧ supplied.recorder = none ∧ around.recorderInstalled = true := by
  have hstep : stopped? (gateStep s supplied around .prometheus).2
      = stopped? (recorderStep supplied around).2 := stopped?_map _ _
  rw [hstep, stopped?_eq_some_iff, recorderStep]
  cases supplied.recorder <;> cases around.recorderInstalled <;> simp [eq_comm]

/-- The judge of tokens cannot be set up when the secret holds no RSA key although one is needed. -/
theorem stopped?_judgeStep {t : TokenSettings} {e : StartupError} :
    stopped? (judgeStep t supplied).2 = some e
      ↔ ∃ cause, e = .keyMaterial cause ∧ supplied.judge = none ∧ t.signingMethod = .rs256
        ∧ RsaDocument.read t.secret = .error cause := by
  unfold judgeStep
  cases hsupplied : supplied.judge with
  | some judge => simp [stopped?]
  | none =>
    have hstep : stopped? (verifierStep t |>.map id fun r => r.map Verifier.judge).2
        = stopped? (verifierStep t).2 := stopped?_map _ _
    dsimp only
    rw [hstep]
    unfold verifierStep KeyMaterial.resolve
    cases hmethod : t.signingMethod with
    | hs256 => simp [stopped?]
    | rs256 => cases hread : RsaDocument.read t.secret <;> simp [stopped?, Except.map, eq_comm]

/-! ### The answer to rejected requests -/

/-- Every redirect URL that was loaded may stand in the fields of a rejection. -/
theorem responder_of_load {env : Environment} (hload : Settings.load env = .ok s) :
    ∃ answer, responder s.token = .ok answer := by
  have hurl := (Settings.tokensReadFrom_of_loadToken
    (Settings.load_eq_ok_iff.1 hload).token).isPlainUrl
  unfold responder Responder.ofSettings Responder.headerValue
  rw [if_pos (Settings.isValue_of_isPlainUrl hurl), if_pos (Settings.isValue_challengeFor hurl)]
  cases s.token.rejectionStyle with
  | challenge => exact ⟨_, rfl⟩
  | redirect status => exact ⟨_, rfl⟩

/-- With an answer to rejected requests, the gate that asks for a token depends on the judge. -/
theorem stopped?_auth {answer : Responder} (hanswer : responder s.token = .ok answer)
    {e : StartupError} :
    stopped? (gateStep s supplied around .auth).2 = some e
      ↔ ∃ cause, e = .keyMaterial cause ∧ supplied.judge = none
        ∧ s.token.signingMethod = .rs256 ∧ RsaDocument.read s.token.secret = .error cause := by
  have hstep : stopped? (gateStep s supplied around .auth).2
      = stopped? (tokenGateStep s supplied).2 := stopped?_map _ _
  have hjudge : stopped? (tokenGateStep s supplied).2
      = stopped? (judgeStep s.token supplied).2 := by
    unfold tokenGateStep
    cases judgeStep s.token supplied with
    | mk log result =>
      cases result with
      | error e => rfl
      | ok judge =>
        dsimp only
        rw [hanswer]
        rfl
  rw [hstep, hjudge, stopped?_judgeStep]

/-! ### All stages -/

/-- What stops the gate of a stage that the settings ask for. -/
def fault? (s : Settings) (supplied : Collaborators) (around : Surroundings) (stage : Stage) :
    Option StartupError :=
  if stage.isEnabled s then stopped? (gateStep s supplied around stage).2 else none

/-- Looking among some members is looking among all of them for those. -/
theorem findSome?_filter {α β : Type} (P : α → Bool) (f : α → Option β) (l : List α) :
    (l.filter P).findSome? f = l.findSome? fun a => if P a then f a else none := by
  induction l with
  | nil => rfl
  | cons a l ih =>
    by_cases ha : P a = true
    · rw [List.filter_cons_of_pos ha, List.findSome?_cons, List.findSome?_cons, if_pos ha, ih]
    · rw [List.filter_cons_of_neg ha, List.findSome?_cons, if_neg ha, ih]

/-- The startup is stopped by the statsd agent, or else by the recorder, or else by one of the two
gates of admission. -/
theorem stopped?_build_eq : stopped? (Pipeline.build s supplied around).2
    = (fault? s supplied around .statsd).or ((fault? s supplied around .prometheus).or
      ((fault? s supplied around .auth).or (fault? s supplied around .groupClaim))) := by
  have hplain : ∀ stage, stage ∉ [Stage.statsd, .prometheus, .auth, .groupClaim] →
      fault? s supplied around stage = none := by
    intro stage hstage
    have hgate : stopped? (gateStep s supplied around stage).2 = none := by
      cases stage with
      | statsd | prometheus | auth | groupClaim => exact absurd (by simp) hstage
      | recovery | compression | verboseLogging | apm | cors | static | profiling
      | stripPrefix => rfl
    rw [fault?, hgate, ite_self]
  have hfaults : stopped? (Pipeline.build s supplied around).2
      = Stage.all.findSome? (fault? s supplied around) := by
    rw [stopped?_build, stopped?_gatesStep, Settings.stages, findSome?_filter]
    rfl
  rw [hfaults]
  simp only [Stage.all, List.findSome?_cons, List.findSome?_nil, hplain .recovery (by decide),
    hplain .compression (by decide), hplain .verboseLogging (by decide), hplain .apm (by decide),
    hplain .cors (by decide), hplain .static (by decide), hplain .profiling (by decide),
    hplain .stripPrefix (by decide)]
  cases fault? s supplied around .statsd <;> cases fault? s supplied around .prometheus
    <;> cases fault? s supplied around .auth <;> cases fault? s supplied around .groupClaim <;> rfl

/-- With an answer to rejected requests, the startup is stopped by the statsd agent, or else by the
recorder, or else by the key. -/
theorem stopped?_eq {answer : Responder} (hanswer : responder s.token = .ok answer) :
    stopped? (Pipeline.build s supplied around).2
      = (fault? s supplied around .statsd).or ((fault? s supplied around .prometheus).or
        (fault? s supplied around .auth)) := by
  have hgroup : fault? s supplied around .groupClaim = none := by
    have hgate : stopped? (gateStep s supplied around .groupClaim).2 = none := by
      unfold gateStep
      rw [hanswer]
      rfl
    rw [fault?, hgate, ite_self]
  rw [stopped?_build_eq, hgroup, Option.or_none]

theorem fault?_eq_some_iff {stage : Stage} {e : StartupError} :
    fault? s supplied around stage = some e ↔ stage.isEnabled s = true
      ∧ stopped? (gateStep s supplied around stage).2 = some e := by
  unfold fault?
  split_ifs with henabled
  · simp [henabled]
  · simp [henabled]

theorem fault?_statsd {e : StartupError} :
    fault? s supplied around .statsd = some e
      ↔ ∃ cause, e = .statsd cause ∧ StatsdFails s supplied around cause := by
  rw [fault?_eq_some_iff, stopped?_statsd]
  constructor
  · rintro ⟨henabled, cause, he, hnone, hconnect⟩
    exact ⟨cause, he, henabled, hnone, hconnect⟩
  · rintro ⟨cause, he, henabled, hnone, hconnect⟩
    exact ⟨henabled, cause, he, hnone, hconnect⟩

theorem fault?_prometheus {e : StartupError} :
    fault? s supplied around .prometheus = some e
      ↔ e = .recorderInstalled ∧ RecorderFails s supplied around := by
  rw [fault?_eq_some_iff, stopped?_prometheus]
  constructor
  · rintro ⟨henabled, he, hnone, hinstalled⟩
    exact ⟨he, henabled, hnone, hinstalled⟩
  · rintro ⟨he, henabled, hnone, hinstalled⟩
    exact ⟨henabled, he, hnone, hinstalled⟩

theorem fault?_statsd_eq_none_iff :
    fault? s supplied around .statsd = none ↔ ∀ cause, ¬ StatsdFails s supplied around cause := by
  rw [Option.eq_none_iff_forall_ne_some]
  constructor
  · intro h cause hfails
    exact h _ (fault?_statsd.2 ⟨cause, rfl, hfails⟩)
  · intro h e he
    obtain ⟨cause, -, hfails⟩ := fault?_statsd.1 he
    exact h cause hfails

theorem fault?_prometheus_eq_none_iff :
    fault? s supplied around .prometheus = none ↔ ¬ RecorderFails s supplied around := by
  rw [Option.eq_none_iff_forall_ne_some]
  constructor
  · intro h hfails
    exact h _ (fault?_prometheus.2 ⟨rfl, hfails⟩)
  · intro h e he
    exact h (fault?_prometheus.1 he).2

theorem fault?_auth {answer : Responder} (hanswer : responder s.token = .ok answer)
    {e : StartupError} :
    fault? s supplied around .auth = some e
      ↔ ∃ cause, e = .keyMaterial cause ∧ KeyFails s supplied cause := by
  rw [fault?_eq_some_iff, stopped?_auth hanswer]
  constructor
  · rintro ⟨henabled, cause, he, hnone, hmethod, hread⟩
    exact ⟨cause, he, henabled, hnone, hmethod, hread⟩
  · rintro ⟨cause, he, henabled, hnone, hmethod, hread⟩
    exact ⟨henabled, cause, he, hnone, hmethod, hread⟩

end Startup

/-- The stages that the settings ask for are all those that are enabled. -/
theorem Settings.mem_stages {s : Settings} {stage : Stage} :
    stage ∈ s.stages ↔ stage.isEnabled s = true := by
  have hall : stage ∈ Stage.all := by
    cases stage <;> decide
  rw [stages, List.mem_filter]
  exact ⟨fun h => h.2, fun h => ⟨hall, h⟩⟩

namespace Pipeline

open Startup

variable {env : Environment} {s : Settings} {supplied : Collaborators} {around : Surroundings}

/-- What stops the startup, in the order in which it is looked for. -/
theorem build_eq_error_iff {answer : Responder} (hanswer : responder s.token = .ok answer)
    (e : StartupError) :
    (build s supplied around).2 = .error e ↔
      (∃ cause, e = .statsd cause ∧ StatsdFails s supplied around cause)
      ∨ ((∀ cause, ¬ StatsdFails s supplied around cause)
        ∧ e = .recorderInstalled ∧ RecorderFails s supplied around)
      ∨ ((∀ cause, ¬ StatsdFails s supplied around cause) ∧ ¬ RecorderFails s supplied around
        ∧ ∃ cause, e = .keyMaterial cause ∧ KeyFails s supplied cause) := by
  rw [← stopped?_eq_some_iff, stopped?_eq hanswer, Option.or_eq_some_iff, Option.or_eq_some_iff,
    fault?_statsd, fault?_prometheus, fault?_auth hanswer, fault?_statsd_eq_none_iff,
    fault?_prometheus_eq_none_iff, and_or_left]

/-- The statsd agent stops the startup whatever else might. -/
theorem build_of_statsdFails {cause : ConnectError} (h : StatsdFails s supplied around cause) :
    (build s supplied around).2 = .error (.statsd cause) := by
  rw [← stopped?_eq_some_iff, stopped?_build_eq, fault?_statsd.2 ⟨cause, rfl, h⟩, Option.some_or]

/-- The recorder stops the startup unless the statsd agent does. -/
theorem build_of_recorderFails (hstatsd : ∀ cause, ¬ StatsdFails s supplied around cause)
    (h : RecorderFails s supplied around) :
    (build s supplied around).2 = .error .recorderInstalled := by
  rw [← stopped?_eq_some_iff, stopped?_build_eq, fault?_statsd_eq_none_iff.2 hstatsd,
    fault?_prometheus.2 ⟨rfl, h⟩, Option.none_or, Option.some_or]

/-- Without a reason to stop there is a pipeline. -/
theorem exists_build_of_not_fails {answer : Responder} (hanswer : responder s.token = .ok answer)
    (hstatsd : ∀ cause, ¬ StatsdFails s supplied around cause)
    (hrecorder : ¬ RecorderFails s supplied around) (hkey : ∀ cause, ¬ KeyFails s supplied cause) :
    ∃ p, (build s supplied around).2 = .ok p := by
  refine stopped?_eq_none_iff.1 (Option.eq_none_iff_forall_ne_some.2 fun e he => ?_)
  rcases (build_eq_error_iff hanswer e).1 (stopped?_eq_some_iff.1 he) with
    ⟨cause, -, h⟩ | ⟨-, -, h⟩ | ⟨-, -, cause, -, h⟩
  · exact hstatsd cause h
  · exact hrecorder h
  · exact hkey cause h

/-- Settings that were loaded fail to start exactly when the statsd agent is out of reach, or else
the process has a recorder already, or else the secret is no key, each of them only where it is
asked for and not supplied.  Otherwise there is a pipeline, with a gate for every stage that is
enabled, in the order of the stages.  The redirect URL never stops the startup: no byte of a field
with it is refused. -/
theorem build_fails_iff (hload : Settings.load env = .ok s) (supplied : Collaborators)
    (around : Surroundings) :
    (∀ e, (build s supplied around).2 = .error e ↔
        (∃ cause, e = .statsd cause ∧ StatsdFails s supplied around cause)
        ∨ ((∀ cause, ¬ StatsdFails s supplied around cause)
          ∧ e = .recorderInstalled ∧ RecorderFails s supplied around)
        ∨ ((∀ cause, ¬ StatsdFails s supplied around cause)
          ∧ ¬ RecorderFails s supplied around
          ∧ ∃ cause, e = .keyMaterial cause ∧ KeyFails s supplied cause))
      ∧ ((∀ cause, ¬ StatsdFails s supplied around cause) → ¬ RecorderFails s supplied around →
        (∀ cause, ¬ KeyFails s supplied cause) → ∃ p, (build s supplied around).2 = .ok p)
      ∧ (∀ p, (build s supplied around).2 = .ok p → p.stages = s.stages)
      ∧ s.stages.Sublist Stage.all ∧ (∀ stage, stage ∈ s.stages ↔ stage.isEnabled s = true)
      ∧ (∀ cause, (build s supplied around).2 ≠ .error (.headerValue cause))
      ∧ (∀ b ∈ Utf8.encode s.token.redirectUrl, Header.IsValueByte b)
      ∧ ∀ b ∈ Utf8.encode ("Bearer realm=\"" ++ s.token.redirectUrl ++ "\""),
        Header.IsValueByte b := by
  obtain ⟨answer, hanswer⟩ := responder_of_load hload
  have hurl := (Settings.tokensReadFrom_of_loadToken
    (Settings.load_eq_ok_iff.1 hload).token).isPlainUrl
  refine ⟨build_eq_error_iff hanswer, exists_build_of_not_fails hanswer, ?_,
    List.filter_sublist, fun _ => Settings.mem_stages, ?_, ?_, ?_⟩
  · intro p hp
    exact stages_of_gatesStep (gatesStep_of_build hp)
  · intro cause h
    rcases (build_eq_error_iff hanswer _).1 h with ⟨_, h, -⟩ | ⟨-, h, -⟩ | ⟨-, -, _, h, -⟩
      <;> cases h
  · exact (Header.isValue_iff_bytes _).1 (Settings.isValue_of_isPlainUrl hurl)
  · exact (Header.isValue_iff_bytes _).1 (Settings.isValue_challengeFor hurl)

/-- Variables that ask for everything that can stop the startup, with a redirect URL that is not
ASCII. -/
def troubledVariables : Environment := fun name =>
  if name = "STATSD_ENABLED" ∨ name = "PROMETHEUS_ENABLED" ∨ name = "JWT_AUTH_ENABLED" then
    some "true"
  else if name = "JWT_AUTH_SIGNING_METHOD" then some "RS256"
  else if name = "JWT_AUTH_SECRET" then some "no key"
  else if name = "JWT_AUTH_NO_TOKEN_REDIRECT_URL" then some "/connexion/é"
  else none

/-- A process without a network that has a recorder of metrics already. -/
def troubledSurroundings : Surroundings :=
  { bareSurroundings with
    network := fun _ _ => .error .networkUnreachable
    recorderInstalled := true }

/-- A judge with a shared secret, which needs no RSA key. -/
def sharedJudge : TokenJudge := (Verifier.ofSecret .hs256 "secret" 0 false).judge

theorem exists_load_troubledVariables :
    ∃ s, Settings.load troubledVariables = .ok s ∧ s.statsd.enabled = true
      ∧ s.prometheus.enabled = true ∧ s.token.enabled = true ∧ s.token.signingMethod = .rs256
      ∧ RsaDocument.read s.token.secret = .error .notAnRsaKey
      ∧ (∀ name, StatsdClient.connect troubledSurroundings.network s.statsd.host s.statsd.port name
        = .error .networkUnreachable) :=
  ⟨_, rfl, rfl, rfl, rfl, rfl, rfl, fun _ => rfl⟩

/-- With these variables each reason to stop shows once the earlier ones are out of the way, and
with all collaborators supplied there is a pipeline. -/
theorem build_fails_troubled :
    ∃ s, Settings.load troubledVariables = .ok s
      ∧ (build s .none troubledSurroundings).2 = .error (.statsd .networkUnreachable)
      ∧ (build s ⟨some ⟨"edge."⟩, none, none⟩ troubledSurroundings).2 = .error .recorderInstalled
      ∧ (build s ⟨some ⟨"edge."⟩, some (.empty []), none⟩ troubledSurroundings).2
        = .error (.keyMaterial .notAnRsaKey)
      ∧ ∃ p, (build s ⟨some ⟨"edge."⟩, some (.empty []), some sharedJudge⟩ troubledSurroundings).2
        = .ok p ∧ p.stages = s.stages := by
  obtain ⟨s, hs, hstatsd, hprometheus, htoken, hmethod, hread, hconnect⟩ :=
    exists_load_troubledVariables
  have hsupplied {client : StatsdClient} {supplied : Collaborators}
      (h : supplied.statsd = some client) (cause : ConnectError) :
      ¬ StatsdFails s supplied troubledSurroundings cause := by
    rintro ⟨-, hnone, -⟩
    rw [h] at hnone
    exact absurd hnone (by simp)
  refine ⟨s, hs, ?_, ?_, ?_, ?_⟩
  · refine ((build_fails_iff hs .none troubledSurroundings).1 _).2 (Or.inl ⟨_, rfl, ?_⟩)
    exact ⟨hstatsd, rfl, hconnect _⟩
  · refine ((build_fails_iff hs _ troubledSurroundings).1 _).2 (Or.inr (Or.inl ?_))
    exact ⟨hsupplied rfl, rfl, hprometheus, rfl, rfl⟩
  · refine ((build_fails_iff hs _ troubledSurroundings).1 _).2 (Or.inr (Or.inr ?_))
    refine ⟨hsupplied rfl, ?_, .notAnRsaKey, rfl, htoken, rfl, hmethod, hread⟩
    rintro ⟨-, hnone, -⟩
    exact absurd hnone (by simp)
  · obtain ⟨-, hstarts, hstages, -⟩ := build_fails_iff hs
      ⟨some ⟨"edge."⟩, some (.empty []), some sharedJudge⟩ troubledSurroundings
    obtain ⟨p, hp⟩ := hstarts (hsupplied rfl) (fun h => absurd h.2.1 (by simp))
      fun cause h => absurd h.2.1 (by simp)
    exact ⟨p, hp, hstages p hp⟩

end Pipeline

end AuthGateway
