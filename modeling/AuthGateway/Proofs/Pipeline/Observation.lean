import AuthGateway.Proofs.Gate.Breaking
import AuthGateway.Proofs.Gate.Telemetry
import AuthGateway.Proofs.Http.Header
import AuthGateway.Proofs.Pipeline.Admission
import AuthGateway.Proofs.Routing.Destination
import AuthGateway.Proofs.Telemetry.Metrics
import AuthGateway.Service.Routes

/-!
# Which requests are observed

With both gates of telemetry in a pipeline, every request but a scrape passes them unchanged, and
behind them nothing is measured.  So what they measure is all there is, and it depends on what
becomes of the request behind them: an answer is measured by both with its status, which the gates
in front keep; a request that breaks off leaves no answer to them, and they measure nothing
(`Pipeline.serve_cases`), although the recovery gate in front makes an answer for the client.

In a run, a request is therefore observed once, and with the status that the client gets, exactly
when serving it does not break off (`Pipeline.observed_iff`).
-/

namespace AuthGateway

/-! ### Where the gates of telemetry stand -/

namespace Stage

/-- The stages in front of telemetry. -/
def surrounding : List Stage :=
  [recovery, compression, verboseLogging]

/-- The stages behind telemetry. -/
def observed : List Stage :=
  [apm, cors, auth, groupClaim, static, profiling, stripPrefix]

theorem all_eq_measuring : all = surrounding ++ (measuring ++ observed) :=
  rfl

/-- Dressing an answer keeps its status. -/
theorem status_dress (r : Request) (stage : Stage) (response : Response) :
    (stage.dress r response).status = response.status := by
  cases stage with
  | compression => exact ContentCoding.status_apply
  | cors => exact CrossOrigin.status_expose
  | recovery | verboseLogging | statsd | prometheus | apm | auth | groupClaim | static
  | profiling | stripPrefix => rfl

theorem status_foldr_dress (r : Request) (stages : List Stage) (response : Response) :
    (stages.foldr (fun stage => stage.dress r) response).status = response.status := by
  induction stages with
  | nil => rfl
  | cons stage stages ih => rw [List.foldr_cons, status_dress, ih]

end Stage

/-- A client that is set up has the configured prefix. -/
theorem StatsdClient.eq_of_connect {network : Network} {host : String} {port : Nat}
    {namePrefix : String} {client : StatsdClient}
    (h : connect network host port namePrefix = .ok client) : client = ⟨namePrefix⟩ := by
  unfold connect at h
  split_ifs at h
  · cases h
  · cases hnetwork : network host port with
    | error e =>
      rw [hnetwork] at h
      cases h
    | ok u =>
      rw [hnetwork] at h
      exact (Except.ok.inj h).symm

namespace Startup

variable {s : Settings} {supplied : Collaborators} {around : Surroundings}

/-- The client of the statsd agent: the one that is supplied, or one with the configured prefix. -/
def clientOf (s : Settings) (supplied : Collaborators) : StatsdClient :=
  supplied.statsd.getD ⟨s.statsd.namePrefix⟩

theorem client_of_statsdStep {client : StatsdClient}
    (h : (statsdStep s supplied around).2 = .ok client) : client = clientOf s supplied := by
  unfold statsdStep at h
  unfold clientOf
  split at h
  · rename_i client' hsupplied
    rw [hsupplied]
    exact (Except.ok.inj h).symm
  · rename_i hnone
    split at h
    · rename_i client' hconnect
      obtain rfl := Except.ok.inj h
      rw [hnone]
      exact StatsdClient.eq_of_connect hconnect
    · exact absurd h (by simp)

end Startup

namespace Pipeline

variable {s : Settings} {supplied : Collaborators} {around : Surroundings} {p : Pipeline}

/-- The gates of a pipeline with both gates of telemetry. -/
theorem gates_of_build_measuring (hbuild : (build s supplied around).2 = .ok p)
    (hstatsd : s.statsd.enabled = true) (hprometheus : s.prometheus.enabled = true) :
    ∃ front behind, p.gates = front ++ (.statsd (Startup.clientOf s supplied)
        :: .prometheus s.prometheus.path s.prometheus.latencyHistogram :: behind)
      ∧ (Startup.gatesStep s supplied around
        (Stage.surrounding.filter (Stage.isEnabled s))).2 = .ok front
      ∧ (Startup.gatesStep s supplied around
        (Stage.observed.filter (Stage.isEnabled s))).2 = .ok behind := by
  have hgates := gatesStep_of_build hbuild
  rw [Settings.stages, Stage.all_eq_measuring, List.filter_append, List.filter_append] at hgates
  obtain ⟨front, rest, hfront, hrest, hp⟩ := Startup.gatesStep_append_eq_ok.1 hgates
  obtain ⟨measuring, behind, hmeasuring, hbehind, rfl⟩ := Startup.gatesStep_append_eq_ok.1 hrest
  refine ⟨front, behind, ?_, hfront, hbehind⟩
  rw [Stage.measuring,
    List.filter_cons_of_pos (show Stage.isEnabled s .statsd = true from hstatsd),
    List.filter_cons_of_pos (show Stage.isEnabled s .prometheus = true from hprometheus)]
    at hmeasuring
  obtain ⟨gate, others, hgate, hothers, rfl⟩ := Startup.gatesStep_cons_eq_ok.1 hmeasuring
  obtain ⟨gate', none, hgate', hnone, rfl⟩ := Startup.gatesStep_cons_eq_ok.1 hothers
  obtain rfl : [] = none := Except.ok.inj hnone
  obtain ⟨client, hclient, rfl⟩ := exists_of_map_eq_ok hgate
  obtain ⟨_, -, rfl⟩ := exists_of_map_eq_ok hgate'
  rw [hp, Startup.client_of_statsdStep hclient]
  rfl

/-! ### One request -/

section Surrounding

variable {front behind : List Gate} {c : Conditions} {r : Request}

/-- A stage in front of telemetry stands outside admission and answers no request. -/
theorem outer_of_mem_surrounding {stage : Stage}
    (hstage : stage ∈ Stage.surrounding.filter (Stage.isEnabled s)) :
    stage ∈ Stage.outer ∧ stage ∉ Stage.measuring ∧ ¬ stage.Answers s r := by
  have hmem := (List.mem_filter.1 hstage).1
  simp only [Stage.surrounding, List.mem_cons, List.not_mem_nil, or_false] at hmem
  rcases hmem with rfl | rfl | rfl <;> exact ⟨by decide, by decide, id⟩

/-- The gates in front of telemetry let every request through as it is. -/
theorem forward_of_surrounding (hfront : (Startup.gatesStep s supplied around
      (Stage.surrounding.filter (Stage.isEnabled s))).2 = .ok front) :
    ∀ g ∈ front, (g.enter c r).1 = .forward r :=
  Startup.forward_of_not_answers (fun _ hst => (outer_of_mem_surrounding (r := r) hst).1) hfront
    fun _ hst => (outer_of_mem_surrounding hst).2.2

/-- What is answered behind the gates in front of telemetry is answered with that status. -/
theorem serve_of_surrounding (hp : p.gates = front ++ behind)
    (hfront : (Startup.gatesStep s supplied around
      (Stage.surrounding.filter (Stage.isEnabled s))).2 = .ok front) {app : App}
    {response : Response} (hinner : (serveThrough c ((p.destination app r).handler r.method) behind
      r).outcome = .answered response) :
    ∃ delivered, (p.serve app c r).outcome = .answered delivered
      ∧ delivered.status = response.status := by
  refine ⟨(p.destination app r).finish r.method ((Stage.surrounding.filter
    (Stage.isEnabled s)).foldr (fun stage => stage.dress r) response), ?_, ?_⟩
  · show (serveThrough c ((p.destination app r).handler r.method) p.gates r).outcome.mapResponse _
      = _
    rw [hp, serveThrough_append_outcome (forward_of_surrounding hfront), hinner,
      Startup.leaving_answered (fun _ hst => (outer_of_mem_surrounding (r := r) hst).1) hfront]
    rfl
  · rw [Destination.status_finish, Stage.status_foldr_dress]

end Surrounding

/-- A request that is no scrape is answered, and measured with the status of the answer, or serving
it breaks off, and it is not measured. -/
theorem serve_cases (hbuild : (build s supplied around).2 = .ok p)
    (hstatsd : s.statsd.enabled = true) (hprometheus : s.prometheus.enabled = true) (app : App)
    (c : Conditions) {r : Request} (hr : r.path ≠ s.prometheus.path) :
    (∃ response, (p.serve app c r).outcome = .answered response
      ∧ Event.measurements (p.serve app c r).events
        = Gate.measured (Startup.clientOf s supplied) s.prometheus.latencyHistogram c.elapsed r
          response.status
      ∧ ¬ ∃ payload, BreaksOff c ((p.destination app r).handler r.method) p.gates r payload)
    ∨ (Event.measurements (p.serve app c r).events = []
      ∧ ∃ payload, BreaksOff c ((p.destination app r).handler r.method) p.gates r payload) := by
  obtain ⟨front, behind, hp, hfront, hbehind⟩ :=
    gates_of_build_measuring hbuild hstatsd hprometheus
  set h := (p.destination app r).handler r.method with hhandler
  have hinside : ∀ g ∈ behind, g.stage ∉ Stage.measuring ∧ g.stage ≠ .recovery := by
    have hapart : ∀ stage ∈ Stage.observed, stage ∉ Stage.measuring ∧ stage ≠ .recovery := by
      decide
    intro g hg
    exact hapart g.stage (Startup.stage_mem_of_enabled hbehind hg)
  have hforward := forward_of_surrounding (c := c) (r := r) hfront
  have hquiet : ∀ g ∈ front, g.stage ∉ Stage.measuring ∧ (g.enter c r).1 = .forward r :=
    fun g hg => ⟨(outer_of_mem_surrounding (r := r)
      (Startup.stage_mem_of_gatesStep hfront hg)).2.1, hforward g hg⟩
  obtain ⟨houtcome, hmeasured⟩ := serveThrough_measuring (c := c) hr
    (fun g hg => (hinside g hg).1) h (Startup.clientOf s supplied) s.prometheus.latencyHistogram
  have hevents : Event.measurements (p.serve app c r).events
      = ((serveThrough c h behind r).outcome.status?.map (Gate.measured
        (Startup.clientOf s supplied) s.prometheus.latencyHistogram c.elapsed r)).getD [] := by
    rw [← hmeasured, ← serveThrough_append_measurements hquiet, ← hp]
    rfl
  have hbreaks (payload : PanicPayload) : BreaksOff c h p.gates r payload
      ↔ (serveThrough c h behind r).outcome = .panicked payload := by
    rw [hp, breaksOff_append_of_forward hforward,
      breaksOff_cons_of_forward (show (Gate.enter c r (.statsd _)).1 = .forward r from rfl),
      breaksOff_cons_of_forward (enter_prometheus hr _),
      outcome_eq_panicked_iff fun g hg => (hinside g hg).2]
  cases hinner : (serveThrough c h behind r).outcome with
  | answered response =>
    left
    obtain ⟨delivered, hdelivered, hstatus⟩ :=
      serve_of_surrounding hp hfront (houtcome.trans hinner)
    refine ⟨delivered, hdelivered, ?_, ?_⟩
    · rw [hevents, hinner, hstatus]
      rfl
    · rintro ⟨payload, hpayload⟩
      rw [hbreaks, hinner] at hpayload
      exact absurd hpayload (by simp)
  | panicked payload =>
    right
    rw [hevents, hinner]
    exact ⟨rfl, payload, (hbreaks payload).2 hinner⟩

/-! ### A run -/

/-- A run goes on where it was left. -/
theorem run_append (p : Pipeline) (app : App) (start : Recorder)
    (earlier later : List (Moment × Request)) :
    p.run app start (earlier ++ later)
      = ((p.run app start earlier).1 ++ (p.run app (p.run app start earlier).2 later).1,
        (p.run app (p.run app start earlier).2 later).2) := by
  induction earlier generalizing start with
  | nil => rfl
  | cons x earlier ih =>
    rw [List.cons_append, run, run, ih]
    rfl

/-- Every request of a run gets a reply. -/
theorem length_run (p : Pipeline) (app : App) (start : Recorder)
    (requests : List (Moment × Request)) :
    (p.run app start requests).1.length = requests.length := by
  induction requests generalizing start with
  | nil => rfl
  | cons x requests ih =>
    rw [run, List.length_cons, List.length_cons, ih]

/-- A request of a run is served with the metrics that the requests before it left behind. -/
theorem run_getElem? (p : Pipeline) (app : App) (start : Recorder)
    (earlier later : List (Moment × Request)) (m : Moment) (r : Request) :
    (p.run app start (earlier ++ (m, r) :: later)).1[earlier.length]?
      = some (p.serve app ⟨m.now, m.elapsed, (p.run app start earlier).2⟩ r) := by
  have hlength := Nat.le_of_eq (length_run p app start earlier)
  rw [run_append, List.getElem?_append_right hlength, length_run, Nat.sub_self]
  rfl

/-- Whether a request is observed once, with a status: its counter goes up by one, no other does,
and the two lines about it are sent if they fit into datagrams. -/
structure IsObserved (client : StatsdClient) (elapsed : Duration) (r : Request) (status : Nat)
    (events : List Event) (before after : Recorder) : Prop where
  counted : ∀ labels, after.count labels
    = before.count labels + if labels = ⟨status, r.path, r.method⟩ then 1 else 0
  sent : (∀ line ∈ Gate.lines client elapsed r status, line.utf8ByteSize ≤ 65507) →
    events.filterMap Event.datagram? = Gate.lines client elapsed r status

/-- A request with its measurements is observed once. -/
theorem isObserved_of_measured {client : StatsdClient} {latency : Bool} {elapsed : Duration}
    {r : Request} {status : Nat} {events : List Event} (before : Recorder)
    (h : Event.measurements events = Gate.measured client latency elapsed r status) :
    IsObserved client elapsed r status events before (before.take events) := by
  constructor
  · intro labels
    rw [Recorder.count_take, ← Event.observations_measurements, h, observations_measured,
      List.countP_singleton]
    simp only [decide_eq_true_eq]
    rfl
  · intro hfits
    rw [← Event.datagrams_measurements, h, datagrams_measured]
    exact List.filter_eq_self.2 fun line hline => decide_eq_true (hfits line hline)

/-- A request without measurements is not observed, whatever the status. -/
theorem not_isObserved_of_measured {client : StatsdClient} {elapsed : Duration} {r : Request}
    {status : Nat} {events : List Event} (before : Recorder)
    (h : Event.measurements events = []) :
    ¬ IsObserved client elapsed r status events before (before.take events) := by
  intro hobserved
  have hcount := hobserved.counted ⟨status, r.path, r.method⟩
  rw [Recorder.count_take, ← Event.observations_measurements, h, if_pos rfl] at hcount
  simp at hcount

/-- With both gates of telemetry, a request of a run that is no scrape is observed once, and with
the status that the client gets, exactly when serving it does not break off. -/
theorem observed_iff (hbuild : (build s supplied around).2 = .ok p)
    (hstatsd : s.statsd.enabled = true) (hprometheus : s.prometheus.enabled = true) (app : App)
    (start : Recorder) (earlier later : List (Moment × Request)) (m : Moment) {r : Request}
    (hr : r.path ≠ s.prometheus.path) :
    ∃ reply, (p.run app start (earlier ++ (m, r) :: later)).1[earlier.length]? = some reply
      ∧ ((∃ response, reply.outcome = .answered response
          ∧ IsObserved (Startup.clientOf s supplied) m.elapsed r response.status reply.events
            (p.run app start earlier).2 (p.run app start (earlier ++ [(m, r)])).2)
        ↔ ¬ ∃ payload, BreaksOff ⟨m.now, m.elapsed, (p.run app start earlier).2⟩
          ((p.destination app r).handler r.method) p.gates r payload) := by
  set before := (p.run app start earlier).2 with hbefore
  set c : Conditions := ⟨m.now, m.elapsed, before⟩ with hc
  have hafter : (p.run app start (earlier ++ [(m, r)])).2
      = before.take (p.serve app c r).events := by
    rw [run_append]
    rfl
  refine ⟨p.serve app c r, ?_, ?_⟩
  · have hlength := Nat.le_of_eq (length_run p app start earlier)
    rw [run_append, List.getElem?_append_right hlength, length_run, Nat.sub_self]
    rfl
  · rw [hafter]
    rcases serve_cases hbuild hstatsd hprometheus app c hr with
      ⟨response, houtcome, hmeasured, hholds⟩ | ⟨hmeasured, hbreaks⟩
    · exact ⟨fun _ => hholds,
        fun _ => ⟨response, houtcome, isObserved_of_measured before hmeasured⟩⟩
    · constructor
      · rintro ⟨response, -, hobserved⟩
        exact absurd hobserved (not_isObserved_of_measured before hmeasured)
      · intro hholds
        exact absurd hbreaks hholds

/-- Variables that ask for both gates of telemetry and leave everything else at its default. -/
def telemetryVariables : Environment := fun name =>
  if name = "STATSD_ENABLED" ∨ name = "PROMETHEUS_ENABLED" then some "true" else none

/-- An application with a handler that breaks off. -/
def breakingApp : App where
  routes := [⟨"/job", [("POST", fun _ => .panicked (.text "handler failure"))]⟩]
  fallback := none

/-- What these variables say, and what becomes of a submission in the pipeline built from them. -/
theorem exists_build_telemetryVariables :
    ∃ s p, Settings.load telemetryVariables = .ok s ∧ s.statsd.enabled = true
      ∧ s.prometheus.enabled = true ∧ s.prometheus.path = "/metrics" ∧ s.webPrefix = ""
      ∧ (build s .none bareSurroundings).2 = .ok p
      ∧ ∀ c, arriving c p.gates (submission "/job") = some (submission "/job")
        ∧ (p.serve breakingApp c (submission "/job")).outcome.status? = some 500 :=
  ⟨_, _, rfl, rfl, rfl, rfl, rfl, rfl, fun _ => ⟨rfl, rfl⟩⟩

/-- A submission to a route that can only be read is observed once, with the status 405. -/
theorem observed_submission :
    ∃ s p reply response, Settings.load telemetryVariables = .ok s
      ∧ (build s .none bareSurroundings).2 = .ok p
      ∧ (p.run Service.app p.recorder [(⟨1000, ⟨0, 0⟩⟩, submission "/api/v1/me")]).1[0]?
        = some reply
      ∧ reply.outcome = .answered response
      ∧ IsObserved (Startup.clientOf s .none) ⟨0, 0⟩ (submission "/api/v1/me") response.status
        reply.events p.recorder
        (p.run Service.app p.recorder [(⟨1000, ⟨0, 0⟩⟩, submission "/api/v1/me")]).2 := by
  obtain ⟨s, p, hs, hstatsd, hprometheus, hpath, hprefix, hp, -⟩ := exists_build_telemetryVariables
  have hr : (submission "/api/v1/me").path ≠ s.prometheus.path := by
    rw [hpath]
    decide
  obtain ⟨reply, hreply, hobserved⟩ := observed_iff hp hstatsd hprometheus Service.app p.recorder
    [] [] ⟨1000, ⟨0, 0⟩⟩ hr
  have hholds : ¬ ∃ payload, BreaksOff ⟨1000, ⟨0, 0⟩, p.recorder⟩
      ((p.destination Service.app (submission "/api/v1/me")).handler "POST") p.gates
      (submission "/api/v1/me") payload := by
    rintro ⟨payload, hbreaks⟩
    obtain ⟨r', -, hhandler⟩ := (breaksOff_iff_of_not_asksForPage (by decide)).1 hbreaks
    have hanswer : (p.destination Service.app (submission "/api/v1/me")).handler "POST" r'
        = .answered (.empty 405) := by
      unfold destination
      rw [webPrefix_of_build hp, hprefix]
      rfl
    exact absurd (hanswer.symm.trans hhandler) (by simp)
  obtain ⟨response, houtcome, hcounted⟩ := hobserved.2 hholds
  exact ⟨s, p, reply, response, hs, hp, hreply, houtcome, hcounted⟩

/-- Not every request is observed: the client gets the status 500 for this one, and neither gate of
telemetry measures it. -/
theorem breakingApp_not_observed :
    ∃ s p reply, Settings.load telemetryVariables = .ok s
      ∧ s.statsd.enabled = true ∧ s.prometheus.enabled = true
      ∧ (build s .none bareSurroundings).2 = .ok p
      ∧ (submission "/job").path ≠ s.prometheus.path
      ∧ (p.run breakingApp p.recorder [(⟨1000, ⟨0, 0⟩⟩, submission "/job")]).1 = [reply]
      ∧ reply.outcome.status? = some 500
      ∧ ¬ IsObserved (Startup.clientOf s .none) ⟨0, 0⟩ (submission "/job") 500 reply.events
        p.recorder (p.run breakingApp p.recorder [(⟨1000, ⟨0, 0⟩⟩, submission "/job")]).2 := by
  obtain ⟨s, p, hs, hstatsd, hprometheus, hpath, hprefix, hp, hserve⟩ :=
    exists_build_telemetryVariables
  have hr : (submission "/job").path ≠ s.prometheus.path := by
    rw [hpath]
    decide
  obtain ⟨harrives, hstatus⟩ := hserve ⟨1000, ⟨0, 0⟩, p.recorder⟩
  refine ⟨s, p, _, hs, hstatsd, hprometheus, hp, hr, rfl, hstatus, ?_⟩
  rcases serve_cases hp hstatsd hprometheus breakingApp ⟨1000, ⟨0, 0⟩, p.recorder⟩ hr with
    ⟨response, -, -, hholds⟩ | ⟨hmeasured, -⟩
  · have hbreaks : (p.destination breakingApp (submission "/job")).handler "POST"
        (submission "/job") = .panicked (.text "handler failure") := by
      unfold destination
      rw [webPrefix_of_build hp, hprefix]
      rfl
    exact absurd ⟨_, .handler harrives hbreaks⟩ hholds
  · exact not_isObserved_of_measured p.recorder hmeasured

end Pipeline

end AuthGateway
