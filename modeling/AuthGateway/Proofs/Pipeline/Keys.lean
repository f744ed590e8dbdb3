import AuthGateway.Proofs.Gate.Telemetry
import AuthGateway.Proofs.Pipeline.Startup
import AuthGateway.Proofs.Token.Key
import AuthGateway.Service.Routes

/-!
# Pipelines and their keys

A secret that is no key stops the startup, unless something else stops it before
(`Pipeline.build_eq_keyMaterial_iff`).  So a pipeline whose judge was not supplied has a verifier
with a key (`Startup.hasKey_of_gateStep`), and no gate of it logs that a token was verified
without one (`isQuiet_noKey`): this never shows in a run of the pipeline, whatever the requests are.
-/

namespace AuthGateway

/-! ### Entries that tell of no key -/

/-- The entry in an event, if it tells that a token was verified without a key. -/
def Event.noKey? (e : Event) : Option LogEntry :=
  e.entry?.filter fun entry => entry.TellsOfNoKey

theorem Event.noKey?_logged_eq_none {entry : LogEntry} :
    noKey? (.logged entry) = none ↔ ¬ entry.TellsOfNoKey := by
  rw [noKey?, entry?, Option.filter_eq_none_iff]
  simp

theorem Event.filterMap_noKey?_logged {entries : List LogEntry}
    (h : ∀ entry ∈ entries, ¬ entry.TellsOfNoKey) :
    (entries.map logged).filterMap noKey? = [] := by
  rw [List.filterMap_map, List.filterMap_eq_nil_iff]
  exact fun entry hentry => noKey?_logged_eq_none.2 (h entry hentry)

variable {c : Conditions} {r : Request}

/-- Carrying out a decision logs nothing that tells of no key but what was logged before. -/
theorem settle_noKey {responder : Responder} {d : Decision × List Event}
    (hd : d.2.filterMap Event.noKey? = []) :
    (Gate.settle responder r d).2.filterMap Event.noKey? = [] := by
  obtain ⟨entries, hevents, htarget⟩ := events_settle responder r d
  have hentries : ∀ entry ∈ entries, ¬ entry.TellsOfNoKey := by
    rintro entry hentry ⟨hverifier, -⟩
    rw [htarget entry hentry] at hverifier
    exact absurd hverifier (by decide)
  rw [hevents, List.filterMap_append, hd, Event.filterMap_noKey?_logged hentries, List.nil_append]

/-- Whether a judge never fails for want of a key, and never logs that it does. -/
def TokenJudge.HasKey (judge : TokenJudge) : Prop :=
  ∀ now token, judge.verdict now token ≠ .error .keyUnavailable
    ∧ ∀ entry ∈ judge.log now token, ¬ entry.TellsOfNoKey

/-- Only the gate that asks for a token can tell of no key, and only where its judge does. -/
theorem isQuiet_noKey {g : Gate} (hg : ∀ t, g = .auth t → t.judge.HasKey) :
    g.IsQuiet Event.noKey? c := by
  constructor
  · intro r
    cases g with
    | auth t =>
      refine settle_noKey ?_
      unfold TokenGate.decide
      split_ifs
      · rfl
      · split
        · rename_i token _
          exact Event.filterMap_noKey?_logged ((hg t rfl) c.now token).2
        · rfl
        · rfl
    | groupClaim g =>
      refine settle_noKey ?_
      unfold GroupGate.decide
      split
      · rfl
      · split
        · rfl
        · split_ifs <;> rfl
    | recovery | compression | verboseLogging | statsd | prometheus | apm | cors | static
    | profiling | stripPrefix => rfl
  · intro r outcome
    cases g with
    | recovery =>
      cases outcome with
      | answered response => rfl
      | panicked payload => rfl
    | statsd client =>
      cases outcome with
      | answered response =>
        simp only [Gate.leave, Outcome.status?, Option.map_some, Option.getD_some]
        unfold Gate.measurements
        rw [List.filterMap_map]
        exact List.filterMap_eq_nil_iff.2 fun _ _ => rfl
      | panicked payload => rfl
    | prometheus path latency => cases outcome <;> rfl
    | compression | verboseLogging | apm | cors | auth | groupClaim | static | profiling
    | stripPrefix => rfl

/-! ### The startup -/

namespace Startup

variable {s : Settings} {supplied : Collaborators} {around : Surroundings}

theorem resolve_key_eq_error_iff {method : SigningMethod} {secret : String} {cause : KeyError} :
    (KeyMaterial.resolve method secret).key = .error cause
      ↔ method = .rs256 ∧ RsaDocument.read secret = .error cause := by
  unfold KeyMaterial.resolve
  cases method with
  | hs256 => simp
  | rs256 => cases RsaDocument.read secret <;> simp [Except.map]

/-- The gate that asks for a token is stopped by the key exactly where the secret holds none. -/
theorem stopped?_auth_eq_keyMaterial_iff {cause : KeyError} :
    stopped? (gateStep s supplied around .auth).2 = some (.keyMaterial cause)
      ↔ supplied.judge = none
        ∧ (KeyMaterial.resolve s.token.signingMethod s.token.secret).key = .error cause := by
  have hstep : stopped? (gateStep s supplied around .auth).2
      = stopped? (tokenGateStep s supplied).2 := stopped?_map _ _
  have hjudge : stopped? (tokenGateStep s supplied).2 = some (.keyMaterial cause)
      ↔ stopped? (judgeStep s.token supplied).2 = some (.keyMaterial cause) := by
    unfold tokenGateStep
    cases judgeStep s.token supplied with
    | mk log result =>
      cases result with
      | error e => rfl
      | ok judge =>
        -- what stops the gate behind the judge is the redirect URL
        unfold responder
        cases Responder.ofSettings s.token <;> simp [stopped?, Except.mapError]
  rw [hstep, hjudge, stopped?_judgeStep, resolve_key_eq_error_iff]
  simp

/-- A gate that asks for a token and whose judge was not supplied never tells of no key. -/
theorem hasKey_of_gateStep {t : TokenGate}
    (h : (gateStep s supplied around .auth).2 = .ok (.auth t)) (hnone : supplied.judge = none) :
    t.judge.HasKey := by
  obtain ⟨r, -, ht⟩ := auth_of_gateStep h
  obtain rfl := Gate.auth.inj ht
  have hkey : (KeyMaterial.resolve s.token.signingMethod s.token.secret).FailsNever := by
    rw [KeyMaterial.failsNever_iff]
    cases hresolve : (KeyMaterial.resolve s.token.signingMethod s.token.secret).key with
    | ok key => exact ⟨key, rfl⟩
    | error cause =>
      have hstopped : stopped? (gateStep s supplied around .auth).2 = some (.keyMaterial cause) :=
        stopped?_auth_eq_keyMaterial_iff.2 ⟨hnone, hresolve⟩
      rw [h] at hstopped
      cases hstopped
  obtain ⟨key, -, hnever⟩ := hkey
  intro now token
  show (judgeOf s.token supplied).verdict now token ≠ _
    ∧ ∀ entry ∈ (judgeOf s.token supplied).log now token, _
  rw [judgeOf, hnone, Option.getD_none]
  exact hnever s.token.clockSkew s.token.debug now token

end Startup

namespace Pipeline

open Startup

variable {s : Settings} {supplied : Collaborators} {around : Surroundings} {p : Pipeline}

/-- The key stops the startup exactly where tokens are asked for, no judge is supplied and the
secret holds no key, unless the statsd agent or the recorder stops it before. -/
theorem build_eq_keyMaterial_iff (s : Settings) (supplied : Collaborators) (around : Surroundings)
    (cause : KeyError) :
    (build s supplied around).2 = .error (.keyMaterial cause)
      ↔ (s.token.enabled = true ∧ supplied.judge = none
          ∧ (KeyMaterial.resolve s.token.signingMethod s.token.secret).key = .error cause)
        ∧ (∀ connect, ¬ StatsdFails s supplied around connect)
        ∧ ¬ RecorderFails s supplied around := by
  have hstatsd : fault? s supplied around .statsd ≠ some (.keyMaterial cause) := by
    rw [ne_eq, fault?_statsd]
    simp
  have hrecorder : fault? s supplied around .prometheus ≠ some (.keyMaterial cause) := by
    rw [ne_eq, fault?_prometheus]
    simp
  have hgroup : fault? s supplied around .groupClaim ≠ some (.keyMaterial cause) := by
    rw [ne_eq, fault?_eq_some_iff, gateStep, stopped?_map, responder]
    cases Responder.ofSettings s.token <;> simp [stopped?, Except.mapError]
  have hauth : fault? s supplied around .auth = some (.keyMaterial cause)
      ↔ s.token.enabled = true ∧ supplied.judge = none
        ∧ (KeyMaterial.resolve s.token.signingMethod s.token.secret).key = .error cause := by
    rw [fault?_eq_some_iff, stopped?_auth_eq_keyMaterial_iff]
    rfl
  -- of the four gates that may stop the startup, only the one for tokens does so for want of a key
  rw [← stopped?_eq_some_iff, stopped?_build_eq]
  simp only [Option.or_eq_some_iff, hstatsd, hrecorder, hgroup, hauth, false_or, and_false,
    or_false, fault?_statsd_eq_none_iff, fault?_prometheus_eq_none_iff]
  tauto

/-- The judge of a pipeline never tells of no key, where it was not supplied. -/
theorem hasKey_of_build (hbuild : (build s supplied around).2 = .ok p)
    (hnone : supplied.judge = none) {t : TokenGate} (ht : .auth t ∈ p.gates) : t.judge.HasKey := by
  obtain ⟨stage, -, hgate⟩ := exists_gateStep_of_mem (gatesStep_of_build hbuild) ht
  obtain rfl : Stage.auth = stage := stage_of_gateStep hgate
  exact hasKey_of_gateStep hgate hnone

/-- Serving a request logs nothing that tells of no key. -/
theorem serve_noKey (hbuild : (build s supplied around).2 = .ok p) (hnone : supplied.judge = none)
    (app : App) (c : Conditions) (r : Request) :
    (p.serve app c r).events.filterMap Event.noKey? = [] := by
  have hquiet : ∀ g ∈ p.gates, g.IsQuiet Event.noKey? c := by
    intro g hg
    refine isQuiet_noKey ?_
    rintro t rfl
    exact hasKey_of_build hbuild hnone hg
  exact filterMap_of_quiet hquiet r

/-- No request of a run logs anything that tells of no key. -/
theorem not_tellsOfNoKey_of_mem_run (hbuild : (build s supplied around).2 = .ok p)
    (hnone : supplied.judge = none) (app : App) (start : Recorder)
    (requests : List (Moment × Request)) {reply : Reply}
    (hreply : reply ∈ (p.run app start requests).1) {entry : LogEntry}
    (hentry : .logged entry ∈ reply.events) : ¬ entry.TellsOfNoKey := by
  induction requests generalizing start with
  | nil => exact absurd hreply List.not_mem_nil
  | cons x rest ih =>
    obtain ⟨m, r⟩ := x
    rw [run] at hreply
    rcases List.mem_cons.1 hreply with rfl | hreply
    · have hquiet := serve_noKey hbuild hnone app ⟨m.now, m.elapsed, start⟩ r
      exact Event.noKey?_logged_eq_none.1 (List.filterMap_eq_nil_iff.1 hquiet _ hentry)
    · exact ih _ hreply

/-- Key material fails always, with one error in the log each time, or never.  A pipeline whose
judge was not supplied has one that never does, and no run of it logs anything that tells of no key.
And the key stops the startup exactly where tokens are asked for, no judge is supplied and there is
none, unless the statsd agent or the recorder stops it before: these stop it with their own error,
the agent before the recorder. -/
theorem keys_settled_at_startup (s : Settings) (supplied : Collaborators) (around : Surroundings) :
    (∀ method secret, Xor (KeyMaterial.resolve method secret).FailsAlways
        (KeyMaterial.resolve method secret).FailsNever)
      ∧ (∀ p, supplied.judge = none → (build s supplied around).2 = .ok p →
        (∀ t, .auth t ∈ p.gates → t.judge.HasKey)
          ∧ ∀ app start requests, ∀ reply ∈ (p.run app start requests).1,
            ∀ entry, .logged entry ∈ reply.events → ¬ entry.TellsOfNoKey)
      ∧ (∀ cause, (build s supplied around).2 = .error (.keyMaterial cause)
        ↔ (s.token.enabled = true ∧ supplied.judge = none
            ∧ (KeyMaterial.resolve s.token.signingMethod s.token.secret).key = .error cause)
          ∧ (∀ connect, ¬ StatsdFails s supplied around connect)
          ∧ ¬ RecorderFails s supplied around)
      ∧ (∀ connect, StatsdFails s supplied around connect →
        (build s supplied around).2 = .error (.statsd connect))
      ∧ ((∀ connect, ¬ StatsdFails s supplied around connect) → RecorderFails s supplied around →
        (build s supplied around).2 = .error .recorderInstalled) := by
  refine ⟨fun method secret => KeyMaterial.failsAlways_xor_failsNever _, ?_,
    build_eq_keyMaterial_iff s supplied around, fun connect => build_of_statsdFails,
    build_of_recorderFails⟩
  intro p hnone hbuild
  refine ⟨fun t => hasKey_of_build hbuild hnone, ?_⟩
  intro app start requests reply hreply entry
  exact not_tellsOfNoKey_of_mem_run hbuild hnone app start requests hreply

/-- Variables that ask for metrics, for tokens under an RSA key, and for entries about those that
are refused. -/
def rsaVariables (secret : String) : Environment := fun name =>
  if name = "PROMETHEUS_ENABLED" ∨ name = "JWT_AUTH_ENABLED" ∨ name = "JWT_AUTH_DEBUG" then
    some "true"
  else if name = "JWT_AUTH_SIGNING_METHOD" then some "RS256"
  else if name = "JWT_AUTH_SECRET" then some secret
  else none

/-- A process that has a recorder of metrics already. -/
def recordingSurroundings : Surroundings :=
  { bareSurroundings with recorderInstalled := true }

/-- A small RSA key, as a PEM document. -/
def smallKey : String :=
  "-----BEGIN RSA PUBLIC KEY-----\nMAYCAQMCAQM=\n-----END RSA PUBLIC KEY-----\n"

/-- A request with a token that is none. -/
def scribbledRequest : Request :=
  ⟨"GET", .relative "/api/v1/me" none, [("authorization", "Bearer a.b.c")], [], none⟩

/-- What the verifier logs about that token. -/
def scribbledEntry : LogEntry :=
  { level := .info
    target := "edge.auth.jwt"
    message := "Token verification failed"
    fields := [("error", .text "token is malformed")] }

/-- With an RSA key there is a pipeline.  What it logs about a token that is none does not tell of
no key. -/
theorem keys_settled_at_startup_smallKey :
    ∃ s p reply, Settings.load (rsaVariables smallKey) = .ok s ∧ s.token.signingMethod = .rs256
      ∧ Collaborators.none.judge = none ∧ (build s .none bareSurroundings).2 = .ok p
      ∧ (p.run Service.app p.recorder [(⟨1000, ⟨0, 0⟩⟩, scribbledRequest)]).1 = [reply]
      ∧ .logged scribbledEntry ∈ reply.events ∧ ¬ scribbledEntry.TellsOfNoKey := by
  obtain ⟨s, p, reply, rest, hs, hmethod, hp, hreply, hevents⟩ :
      ∃ s p reply rest, Settings.load (rsaVariables smallKey) = .ok s
        ∧ s.token.signingMethod = .rs256 ∧ (build s .none bareSurroundings).2 = .ok p
        ∧ (p.run Service.app p.recorder [(⟨1000, ⟨0, 0⟩⟩, scribbledRequest)]).1 = [reply]
        ∧ reply.events = .checked "a.b.c" :: .logged scribbledEntry :: rest :=
    ⟨_, _, _, _, rfl, rfl, rfl, rfl, rfl⟩
  have hentry : .logged scribbledEntry ∈ reply.events := by
    rw [hevents]
    exact List.mem_cons_of_mem _ List.mem_cons_self
  refine ⟨s, p, reply, hs, hmethod, rfl, hp, hreply, hentry, ?_⟩
  exact ((keys_settled_at_startup s .none bareSurroundings).2.1 p rfl hp).2 Service.app p.recorder _
    reply (by rw [hreply]; exact List.mem_cons_self) _ hentry

/-- A secret that is no key does not show at startup where the recorder stops it before. -/
theorem recorder_before_key :
    ∃ s, Settings.load (rsaVariables "no key") = .ok s ∧ s.token.enabled = true
      ∧ (KeyMaterial.resolve s.token.signingMethod s.token.secret).key = .error .notAnRsaKey
      ∧ (KeyMaterial.resolve s.token.signingMethod s.token.secret).FailsAlways
      ∧ (build s .none recordingSurroundings).2 = .error .recorderInstalled := by
  obtain ⟨s, hs, henabled, hkey, hbuild⟩ : ∃ s, Settings.load (rsaVariables "no key") = .ok s
      ∧ s.token.enabled = true
      ∧ (KeyMaterial.resolve s.token.signingMethod s.token.secret).key = .error .notAnRsaKey
      ∧ (build s .none recordingSurroundings).2 = .error .recorderInstalled :=
    ⟨_, rfl, rfl, rfl, rfl⟩
  exact ⟨s, hs, henabled, hkey, KeyMaterial.failsAlways_iff.2 ⟨_, hkey⟩, hbuild⟩

end Pipeline

end AuthGateway
