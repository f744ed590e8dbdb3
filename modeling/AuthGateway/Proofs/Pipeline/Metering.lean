import AuthGateway.Proofs.Files.Server
import AuthGateway.Proofs.Gate.Simulation
import AuthGateway.Proofs.Pipeline.Observation

/-!
# Pipelines with metrics

The gate for scrapes stands behind gates that let every request through as it is, and no other gate
records (`Pipeline.IsMetered`).  A scrape is answered there with the metrics, and not recorded
(`Pipeline.IsMetered.serve_scrape`).  Any other request is served as if there were no metrics
(`Pipeline.IsMetered.serve_recorder`): it is recorded with the status of its answer, or serving it
breaks off, and then the outermost gate answers it and it is not recorded
(`Pipeline.IsMetered.serve_cases`).

A request whose handler answers only breaks off at the file server, and only when its target cannot
take one more byte (`Pipeline.not_fails_of_size`).
-/

namespace AuthGateway

/-! ### Where the gate for scrapes stands -/

namespace Stage

/-- The stages in front of the gate for scrapes. -/
def beforeMetrics : List Stage :=
  [recovery, compression, verboseLogging, statsd]

theorem all_eq_beforeMetrics : all = beforeMetrics ++ prometheus :: observed :=
  rfl

/-- Dressing an answer keeps its body. -/
theorem body_dress (r : Request) (stage : Stage) (response : Response) :
    (stage.dress r response).body = response.body := by
  cases stage with
  | compression => exact ContentCoding.body_apply
  | cors => exact CrossOrigin.body_expose
  | recovery | verboseLogging | statsd | prometheus | apm | auth | groupClaim | static
  | profiling | stripPrefix => rfl

theorem body_foldr_dress (r : Request) (stages : List Stage) (response : Response) :
    (stages.foldr (fun stage => stage.dress r) response).body = response.body := by
  induction stages with
  | nil => rfl
  | cons stage stages ih => rw [List.foldr_cons, body_dress, ih]

end Stage

namespace Pipeline

variable {s : Settings} {supplied : Collaborators} {around : Surroundings} {p : Pipeline}
  {app : App} {front behind : List Gate}

/-- The gates of a pipeline with metrics: those in front of the gate for scrapes let every request
through as it is, keep the status and the body of an answer, and make an answer of what broke off;
none but this gate records, and only the gates in front of it recover. -/
structure IsMetered (s : Settings) (p : Pipeline) (front behind : List Gate) : Prop where
  gates : p.gates
    = front ++ .prometheus s.prometheus.path s.prometheus.latencyHistogram :: behind
  enter (c : Conditions) (r : Request) : ∀ g ∈ front, (g.enter c r).1 = .forward r
  of_mem_front : ∀ g ∈ front, g.stage ≠ .prometheus
  of_mem_behind : ∀ g ∈ behind, g.stage ≠ .prometheus ∧ g.stage ≠ .recovery
  answered (c : Conditions) (r : Request) (response : Response) :
    ∃ shown, leaving c r front (.answered response) = .answered shown
      ∧ shown.status = response.status ∧ shown.body = response.body
  recovered (c : Conditions) (r : Request) (payload : PanicPayload) :
    ∃ shown, leaving c r front (.panicked payload) = .answered shown ∧ shown.status = 500

/-- The gates of a pipeline with metrics stand in this way. -/
theorem exists_isMetered (hbuild : (build s supplied around).2 = .ok p)
    (hprometheus : s.prometheus.enabled = true) : ∃ front behind, IsMetered s p front behind := by
  have hgates := gatesStep_of_build hbuild
  rw [Settings.stages, Stage.all_eq_beforeMetrics, List.filter_append,
    List.filter_cons_of_pos (show Stage.isEnabled s .prometheus = true from hprometheus)] at hgates
  obtain ⟨front, rest, hfront, hrest, hp⟩ := Startup.gatesStep_append_eq_ok.1 hgates
  obtain ⟨gate, behind, hgate, hbehind, rfl⟩ := Startup.gatesStep_cons_eq_ok.1 hrest
  obtain ⟨_, -, rfl⟩ := exists_of_map_eq_ok hgate
  have hbefore : ∀ stage ∈ Stage.beforeMetrics.filter (Stage.isEnabled s),
      stage ∈ Stage.outer ∧ stage ≠ .prometheus ∧ ∀ r, ¬ stage.Answers s r := by
    intro stage hstage
    have hmem := (List.mem_filter.1 hstage).1
    simp only [Stage.beforeMetrics, List.mem_cons, List.not_mem_nil, or_false] at hmem
    rcases hmem with rfl | rfl | rfl | rfl <;> exact ⟨by decide, by decide, fun _ => id⟩
  refine ⟨front, behind, hp, ?_, ?_, ?_, ?_, ?_⟩
  · intro c r
    exact Startup.forward_of_not_answers (fun st hst => (hbefore st hst).1) hfront
      fun st hst => (hbefore st hst).2.2 r
  · intro g hg
    exact (hbefore _ (Startup.stage_mem_of_gatesStep hfront hg)).2.1
  · have hapart : ∀ stage ∈ Stage.observed, stage ≠ .prometheus ∧ stage ≠ .recovery := by
      decide
    intro g hg
    exact hapart g.stage (Startup.stage_mem_of_enabled hbehind hg)
  · intro c r response
    refine ⟨_, Startup.leaving_answered (fun st hst => (hbefore st hst).1) hfront response, ?_, ?_⟩
    · exact Stage.status_foldr_dress r _ response
    · exact Stage.body_foldr_dress r _ response
  · -- the outermost gate recovers, and no other does
    intro c r payload
    rw [Stage.beforeMetrics,
      List.filter_cons_of_pos (show Stage.isEnabled s .recovery = true from rfl)] at hfront
    obtain ⟨gate, others, hgate, hothers, rfl⟩ := Startup.gatesStep_cons_eq_ok.1 hfront
    obtain rfl := Except.ok.inj hgate
    have hothers' : ∀ g ∈ others, g.stage ≠ .recovery := by
      have hapart : ∀ stage ∈ [Stage.compression, .verboseLogging, .statsd],
          stage ≠ .recovery := by
        decide
      intro g hg
      exact hapart g.stage (Startup.stage_mem_of_enabled hothers hg)
    have hinner := leaving_panicked (c := c) (r := r) hothers' payload
    refine ⟨(Gate.recover payload).1, ?_, rfl⟩
    show (Gate.leave c r (leaving c r others (.panicked payload)) .recovery).1 = _
    rw [hinner]
    rfl

/-! ### One request -/

namespace IsMetered

/-- A scrape is answered with the metrics, and not recorded. -/
theorem serve_scrape (h : IsMetered s p front behind) (app : App) (c : Conditions) {r : Request}
    (hr : r.path = s.prometheus.path) :
    ∃ response, (p.serve app c r).outcome = .answered response ∧ response.status = 200
      ∧ (r.method = "GET" → response.body = Utf8.encode c.recorder.render)
      ∧ (p.serve app c r).events.filterMap Event.observation? = [] := by
  set handler := (p.destination app r).handler r.method with hhandler
  have henter : ((Gate.prometheus s.prometheus.path s.prometheus.latencyHistogram).enter c r).1
      = .settled (.answered (Gate.scrape c.recorder)) := by
    rw [Gate.enter, Gate.scrapeAnswer?, if_pos hr]
    rfl
  obtain ⟨shown, hshown, hstatus, hbody⟩ := h.answered c r (Gate.scrape c.recorder)
  have houtcome : (serveThrough c handler p.gates r).outcome = .answered shown := by
    rw [h.gates, serveThrough_append_outcome (h.enter c r), serveThrough_of_settled henter, hshown]
  refine ⟨(p.destination app r).finish r.method shown, ?_, ?_, ?_, ?_⟩
  · show (serveThrough c handler p.gates r).outcome.mapResponse _ = _
    rw [houtcome]
    rfl
  · rw [Destination.status_finish, hstatus]
    rfl
  · intro hget
    have hpage : (p.destination app r).answersHead r.method = false := by
      rw [hget]
      cases p.destination app r <;> rfl
    rw [Destination.body_finish_of_not_answersHead hpage, hbody]
    rfl
  · show (serveThrough c handler p.gates r).events.filterMap Event.observation? = []
    rw [h.gates, filterMap_append_of_quiet
      fun g hg => ⟨isQuiet_observations (h.of_mem_front g hg), h.enter c r g hg⟩,
      serveThrough_eq_of_settled henter]
    rfl

/-- Serving a request that is no scrape does not depend on the metrics. -/
theorem serve_recorder (h : IsMetered s p front behind) (app : App) (c : Conditions)
    (recorder : Recorder) {r : Request} (hr : r.path ≠ s.prometheus.path) :
    p.serve app { c with recorder } r = p.serve app c r := by
  set handler := (p.destination app r).handler r.method with hhandler
  have hbehind (r' : Request) : serveThrough { c with recorder } handler behind r'
      = serveThrough c handler behind r' := by
    have hquiet : serveThrough { c with recorder } handler (behind ++ []) r'
        = serveThrough c handler (behind ++ []) r' :=
      Gate.serveThrough_append_recorder (fun g hg => (h.of_mem_behind g hg).1) fun _ _ => rfl
    rw [List.append_nil] at hquiet
    exact hquiet
  have hchain : serveThrough { c with recorder } handler p.gates r
      = serveThrough c handler p.gates r := by
    rw [h.gates]
    refine Gate.serveThrough_append_recorder h.of_mem_front fun r' hr' => ?_
    -- only this gate reads the metrics, and it only does so for scrapes
    obtain rfl : r = r' := Option.some.inj ((arriving_of_forall (h.enter c r)).symm.trans hr')
    have henter (c' : Conditions) :
        (Gate.prometheus s.prometheus.path s.prometheus.latencyHistogram).enter c' r
          = (.forward r, []) := by
      rw [Gate.enter, Gate.scrapeAnswer?, if_neg hr]
      rfl
    rw [serveThrough, serveThrough, henter, henter]
    simp only [hbehind, Gate.leave_recorder]
  unfold serve
  dsimp only
  rw [← hhandler, hchain]

/-- A request that is no scrape is recorded with the status of its answer, or serving it breaks off;
then it is answered with the status 500, and not recorded. -/
theorem serve_cases (h : IsMetered s p front behind) (app : App) (c : Conditions) {r : Request}
    (hr : r.path ≠ s.prometheus.path) :
    ∃ response, (p.serve app c r).outcome = .answered response
      ∧ (((p.serve app c r).events.filterMap Event.observation?
            = [Gate.observation s.prometheus.latencyHistogram c.elapsed r response.status]
          ∧ ¬ ∃ payload, BreaksOff c ((p.destination app r).handler r.method) p.gates r payload)
        ∨ ((p.serve app c r).events.filterMap Event.observation? = [] ∧ response.status = 500
          ∧ ∃ payload,
            BreaksOff c ((p.destination app r).handler r.method) p.gates r payload)) := by
  set handler := (p.destination app r).handler r.method with hhandler
  set gate := Gate.prometheus s.prometheus.path s.prometheus.latencyHistogram with hgate
  have henter : (gate.enter c r).1 = .forward r := enter_prometheus hr _
  set inner := (serveThrough c handler behind r).outcome with hinner
  have houtcome : (serveThrough c handler p.gates r).outcome = leaving c r front inner := by
    rw [h.gates, serveThrough_append_outcome (h.enter c r), serveThrough_of_forward henter]
    rfl
  have hevents : (p.serve app c r).events.filterMap Event.observation?
      = (inner.status?.map
        (Gate.observation s.prometheus.latencyHistogram c.elapsed r)).toList := by
    show (serveThrough c handler p.gates r).events.filterMap Event.observation? = _
    have hnone : (gate.enter c r).2 = [] := rfl
    rw [h.gates, filterMap_append_of_quiet
      fun g hg => ⟨isQuiet_observations (h.of_mem_front g hg), h.enter c r g hg⟩,
      serveThrough_eq_of_forward henter, List.filterMap_append, List.filterMap_append, hnone,
      filterMap_of_quiet fun g hg => isQuiet_observations (h.of_mem_behind g hg).1]
    show (gate.leave c r inner).2.filterMap Event.observation? = _
    cases inner <;> rfl
  have hbreaks (payload : PanicPayload) :
      BreaksOff c handler p.gates r payload ↔ inner = .panicked payload := by
    rw [h.gates, breaksOff_append_of_forward (h.enter c r), breaksOff_cons_of_forward henter,
      outcome_eq_panicked_iff fun g hg => (h.of_mem_behind g hg).2]
  cases hcases : inner with
  | answered response =>
    obtain ⟨shown, hshown, hstatus, -⟩ := h.answered c r response
    refine ⟨(p.destination app r).finish r.method shown, ?_, .inl ⟨?_, ?_⟩⟩
    · show (serveThrough c handler p.gates r).outcome.mapResponse _ = _
      rw [houtcome, hcases, hshown]
      rfl
    · rw [hevents, hcases, Destination.status_finish, hstatus]
      rfl
    · rintro ⟨payload, hpayload⟩
      rw [hbreaks, hcases] at hpayload
      exact absurd hpayload (by simp)
  | panicked payload =>
    obtain ⟨shown, hshown, hstatus⟩ := h.recovered c r payload
    refine ⟨(p.destination app r).finish r.method shown, ?_, .inr ⟨?_, ?_, payload, ?_⟩⟩
    · show (serveThrough c handler p.gates r).outcome.mapResponse _ = _
      rw [houtcome, hcases, hshown]
      rfl
    · rw [hevents, hcases]
      rfl
    · rw [Destination.status_finish, hstatus]
    · exact (hbreaks payload).2 hcases

end IsMetered

/-! ### Which requests fail -/

/-- Whether serving a request breaks off.  The metrics so far make no difference to that, unless the
request is a scrape. -/
def Fails (p : Pipeline) (app : App) (x : Moment × Request) : Prop :=
  ∃ payload, BreaksOff ⟨x.1.now, x.1.elapsed, .empty []⟩
    ((p.destination app x.2).handler x.2.method) p.gates x.2 payload

/-- The gate of the static files stands in front of the one that takes off the web prefix. -/
theorem uri_of_arriving_static (hbuild : (build s supplied around).2 = .ok p)
    {front back : List Gate} {site : Site} (hgates : p.gates = front ++ .static site :: back)
    {c : Conditions} {r r' : Request} (hr : arriving c front r = some r') : r'.uri = r.uri := by
  have hstages : (p.gates.map Gate.stage).Sublist Stage.all := by
    rw [Startup.stages_of_gatesStep (gatesStep_of_build hbuild)]
    exact List.filter_sublist
  have hfront : ∀ g ∈ front, g.stage ≠ .stripPrefix := by
    -- else the two would stand in an order that the stages do not have
    intro g hg hstrip
    have hpair : [Stage.stripPrefix, .static].Sublist (p.gates.map Gate.stage) := by
      rw [hgates, List.map_append]
      have hfirst : [Stage.stripPrefix].Sublist (front.map Gate.stage) :=
        List.singleton_sublist.2 (hstrip ▸ List.mem_map_of_mem hg)
      exact hfirst.append (List.singleton_sublist.2 List.mem_cons_self)
    exact absurd (hpair.trans hstages) (by decide)
  obtain ⟨context, rfl⟩ := exists_context_of_arriving hfront hr
  rfl

/-- A request does not fail when its handler answers and its target can take one more byte. -/
theorem not_fails_of_size (hbuild : (build s supplied around).2 = .ok p) {x : Moment × Request}
    (hhandler : ∀ r payload, (p.destination app x.2).handler x.2.method r ≠ .panicked payload)
    (hsize : x.2.uri.pathAndQuery.utf8ByteSize < Uri.maxBytes) : ¬ p.Fails app x := by
  rintro ⟨payload, hbreaks⟩
  cases hbreaks with
  | handler _ hbreaks => exact hhandler _ _ hbreaks
  | site hgates harrives hbreaks =>
    have huri := uri_of_arriving_static hbuild hgates harrives
    exact Gate.siteOutcome?_ne_panicked (by rw [huri]; exact hsize) payload hbreaks

end Pipeline

end AuthGateway
