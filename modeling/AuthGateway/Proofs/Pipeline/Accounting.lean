import AuthGateway.Proofs.Pipeline.Metering
import AuthGateway.Proofs.Telemetry.Exposition
import Mathlib.Data.List.Flatten

/-!
# The accounts of a run

What is recorded about a request of a run, and how it is answered, does not depend on the requests
before it, scrapes aside.  So a run leaves behind the records of its requests, each taken alone
(`Pipeline.IsMetered.run_recorder`), and these are the labels of the answers, but for those of the
requests that fail (`Pipeline.IsMetered.map_labels_observations`).  Hence the counters are those of
the answers exactly when no request fails (`Pipeline.IsMetered.isTally_iff`), and the order of the
requests makes no difference to them (`Pipeline.IsMetered.perm_counters_run`).
-/

namespace AuthGateway

/-- Lists that are put together of pieces, one inside the other, hold the same when the pieces are
the same. -/
theorem flatMap_perm_iff {α β : Type} {f g : α → List β} {l : List α}
    (h : ∀ x ∈ l, (f x).Sublist (g x)) :
    (l.flatMap f).Perm (l.flatMap g) ↔ ∀ x ∈ l, f x = g x := by
  constructor
  · intro hperm
    -- no piece is longer than the other one, and all together are as long, so all are as long
    have hlength := hperm.length_eq
    clear hperm
    induction l with
    | nil => exact fun x hx => absurd hx List.not_mem_nil
    | cons x l ih =>
      have hx := h x List.mem_cons_self
      have hl : ∀ y ∈ l, (f y).Sublist (g y) := fun y hy => h y (List.mem_cons_of_mem x hy)
      have hrest := (List.Sublist.flatMap_right l hl).length_le
      rw [List.flatMap_cons, List.flatMap_cons, List.length_append, List.length_append] at hlength
      have hle := hx.length_le
      intro y hy
      rcases List.mem_cons.1 hy with rfl | hy
      · exact hx.eq_of_length (by omega)
      · exact ih hl (by omega) y hy
  · intro heq
    rw [List.flatMap_congr heq]

namespace Pipeline

variable {s : Settings} {supplied : Collaborators} {around : Surroundings} {p : Pipeline}
  {app : App} {front behind : List Gate}

/-! ### Requests taken alone -/

/-- A request as it is served where nothing has been recorded. -/
def alone (p : Pipeline) (app : App) (x : Moment × Request) : Reply :=
  p.serve app ⟨x.1.now, x.1.elapsed, .empty []⟩ x.2

/-- What is recorded about a request. -/
def observations (p : Pipeline) (app : App) (x : Moment × Request) : List Observation :=
  (p.alone app x).events.filterMap Event.observation?

/-- What is recorded while some requests are served. -/
def recorded (p : Pipeline) (app : App) (start : Recorder) (requests : List (Moment × Request)) :
    List Observation :=
  (p.run app start requests).1.flatMap fun reply => reply.events.filterMap Event.observation?

/-- A run leaves behind what is recorded in it. -/
theorem run_snd (p : Pipeline) (app : App) (start : Recorder)
    (requests : List (Moment × Request)) :
    (p.run app start requests).2 = (p.recorded app start requests).foldl Recorder.record start := by
  induction requests generalizing start with
  | nil => rfl
  | cons x rest ih =>
    obtain ⟨m, r⟩ := x
    have hrest := ih (start.take (p.serve app ⟨m.now, m.elapsed, start⟩ r).events)
    unfold recorded at hrest ⊢
    rw [run, List.flatMap_cons, List.foldl_append]
    exact hrest

/-- The labels of a request as it was answered; scrapes have none. -/
def labels? (path : String) (r : Request) (reply : Reply) : Option RequestLabels :=
  if r.path = path then none
  else reply.outcome.status?.map fun status => ⟨status, r.path, r.method⟩

/-- The labels of the requests of a run as they were answered, scrapes aside. -/
def answeredLabels (path : String) (requests : List (Moment × Request)) (replies : List Reply) :
    List RequestLabels :=
  (requests.zip replies).filterMap fun y => labels? path y.1.2 y.2

namespace IsMetered

variable {x : Moment × Request}

/-- What is recorded about a request does not depend on the metrics so far. -/
theorem observations_serve (h : IsMetered s p front behind) (app : App) (recorder : Recorder)
    (x : Moment × Request) :
    (p.serve app ⟨x.1.now, x.1.elapsed, recorder⟩ x.2).events.filterMap Event.observation?
      = p.observations app x := by
  by_cases hx : x.2.path = s.prometheus.path
  · obtain ⟨_, -, -, -, hevents⟩ := h.serve_scrape app ⟨x.1.now, x.1.elapsed, recorder⟩ hx
    obtain ⟨_, -, -, -, halone⟩ := h.serve_scrape app ⟨x.1.now, x.1.elapsed, .empty []⟩ hx
    exact hevents.trans halone.symm
  · exact congrArg (fun reply => reply.events.filterMap Event.observation?)
      (h.serve_recorder app ⟨x.1.now, x.1.elapsed, .empty []⟩ recorder hx)

/-- How a request is answered does not depend on the metrics so far, scrapes aside. -/
theorem labels?_serve (h : IsMetered s p front behind) (app : App) (recorder : Recorder)
    (x : Moment × Request) :
    labels? s.prometheus.path x.2 (p.serve app ⟨x.1.now, x.1.elapsed, recorder⟩ x.2)
      = labels? s.prometheus.path x.2 (p.alone app x) := by
  by_cases hx : x.2.path = s.prometheus.path
  · unfold labels?
    rw [if_pos hx, if_pos hx]
  · exact congrArg (labels? s.prometheus.path x.2)
      (h.serve_recorder app ⟨x.1.now, x.1.elapsed, .empty []⟩ recorder hx)

/-- A run records what is recorded about its requests, each taken alone. -/
theorem recorded_eq (h : IsMetered s p front behind) (app : App) (start : Recorder)
    (requests : List (Moment × Request)) :
    p.recorded app start requests = requests.flatMap (p.observations app) := by
  induction requests generalizing start with
  | nil => rfl
  | cons x rest ih =>
    obtain ⟨m, r⟩ := x
    rw [List.flatMap_cons, ← h.observations_serve app start (m, r), ← ih]
    rfl

/-- A run leaves behind what is recorded about its requests. -/
theorem run_recorder (h : IsMetered s p front behind) (app : App) (start : Recorder)
    (requests : List (Moment × Request)) :
    (p.run app start requests).2
      = (requests.flatMap (p.observations app)).foldl Recorder.record start := by
  rw [run_snd, h.recorded_eq]

/-- The requests of a run are answered as each would be alone, scrapes aside. -/
theorem answered_run (h : IsMetered s p front behind) (app : App) (start : Recorder)
    (requests : List (Moment × Request)) :
    answeredLabels s.prometheus.path requests (p.run app start requests).1
      = requests.flatMap fun x => (labels? s.prometheus.path x.2 (p.alone app x)).toList := by
  induction requests generalizing start with
  | nil => rfl
  | cons x rest ih =>
    obtain ⟨m, r⟩ := x
    have hrest := ih (start.take (p.serve app ⟨m.now, m.elapsed, start⟩ r).events)
    unfold answeredLabels at hrest ⊢
    rw [run, List.zip_cons_cons, List.filterMap_cons, List.flatMap_cons, hrest,
      h.labels?_serve app start (m, r)]
    cases labels? s.prometheus.path r (p.alone app (m, r)) <;> rfl

/-- A scrape is not recorded.  Any other request has labels, and it is recorded once, under these,
unless it fails. -/
theorem observations_cases (h : IsMetered s p front behind) (app : App) (x : Moment × Request) :
    (x.2.path = s.prometheus.path ∧ p.observations app x = [])
      ∨ (x.2.path ≠ s.prometheus.path ∧ ∃ status,
        labels? s.prometheus.path x.2 (p.alone app x) = some ⟨status, x.2.path, x.2.method⟩
        ∧ ((p.observations app x
              = [Gate.observation s.prometheus.latencyHistogram x.1.elapsed x.2 status]
            ∧ ¬ p.Fails app x)
          ∨ (p.observations app x = [] ∧ p.Fails app x))) := by
  by_cases hx : x.2.path = s.prometheus.path
  · obtain ⟨_, -, -, -, hevents⟩ := h.serve_scrape app ⟨x.1.now, x.1.elapsed, .empty []⟩ hx
    exact Or.inl ⟨hx, hevents⟩
  · obtain ⟨response, houtcome, hcases⟩ :=
      h.serve_cases app ⟨x.1.now, x.1.elapsed, .empty []⟩ hx
    have halone : (p.alone app x).outcome = .answered response := houtcome
    refine Or.inr ⟨hx, response.status, ?_, ?_⟩
    · unfold labels?
      rw [if_neg hx, halone]
      rfl
    · rcases hcases with ⟨hevents, hholds⟩ | ⟨hevents, -, hbreaks⟩
      · exact Or.inl ⟨hevents, hholds⟩
      · exact Or.inr ⟨hevents, hbreaks⟩

/-- A request is recorded under the labels of its answer, or not at all; it is the latter where
there are such labels exactly when the request fails. -/
theorem map_labels_observations (h : IsMetered s p front behind) (app : App)
    (x : Moment × Request) :
    ((p.observations app x).map Observation.labels).Sublist
        (labels? s.prometheus.path x.2 (p.alone app x)).toList
      ∧ ((p.observations app x).map Observation.labels
          = (labels? s.prometheus.path x.2 (p.alone app x)).toList
        ↔ (x.2.path ≠ s.prometheus.path → ¬ p.Fails app x)) := by
  rcases h.observations_cases app x with ⟨hx, hnone⟩ | ⟨hx, status, hlabels, hcases⟩
  · unfold labels?
    rw [if_pos hx, hnone]
    exact ⟨.slnil, fun _ hne => absurd hx hne, fun _ => rfl⟩
  · rw [hlabels]
    rcases hcases with ⟨hone, hholds⟩ | ⟨hnone, hfails⟩
    · rw [hone]
      exact ⟨.refl _, fun _ _ => hholds, fun _ => rfl⟩
    · rw [hnone]
      refine ⟨List.nil_sublist _, fun heq => ?_, fun hholds => absurd hfails (hholds hx)⟩
      exact absurd heq (by simp)

/-- What is recorded about a request says its path and its method, and how long it took when
durations are recorded. -/
theorem exists_status_of_mem (h : IsMetered s p front behind) {o : Observation}
    (ho : o ∈ p.observations app x) :
    ∃ status, o = Gate.observation s.prometheus.latencyHistogram x.1.elapsed x.2 status := by
  rcases h.observations_cases app x with ⟨-, hnone⟩ | ⟨-, status, -, ⟨hone, -⟩ | ⟨hnone, -⟩⟩
  · rw [hnone] at ho
    exact absurd ho List.not_mem_nil
  · rw [hone] at ho
    exact ⟨status, List.mem_singleton.1 ho⟩
  · rw [hnone] at ho
    exact absurd ho List.not_mem_nil

/-- After a run the series are those of the answers exactly when no request fails. -/
theorem isTally_iff (h : IsMetered s p front behind) (app : App) (bounds : List Binary64)
    (requests : List (Moment × Request)) :
    (p.run app (.empty bounds) requests).2.IsTally
        (answeredLabels s.prometheus.path requests (p.run app (.empty bounds) requests).1)
      ↔ ∀ x ∈ requests, x.2.path ≠ s.prometheus.path → ¬ p.Fails app x := by
  rw [h.run_recorder, h.answered_run, Recorder.isTally_foldl_iff, List.map_flatMap,
    flatMap_perm_iff fun x _ => (h.map_labels_observations app x).1]
  exact forall₂_congr fun x _ => (h.map_labels_observations app x).2

/-- A run keeps histograms and counters in step. -/
theorem inStep_run (h : IsMetered s p front behind) (app : App)
    (requests : List (Moment × Request)) :
    (p.run app .fresh requests).2.InStep
      s.prometheus.latencyHistogram := by
  rw [h.run_recorder]
  refine Recorder.inStep_foldl (Recorder.inStep_empty _ _) Recorder.pairwise_requestBounds ?_
  intro o ho
  obtain ⟨x, -, hx⟩ := List.mem_flatMap.1 ho
  obtain ⟨status, rfl⟩ := h.exists_status_of_mem hx
  unfold Gate.observation
  cases s.prometheus.latencyHistogram <;> rfl

/-- The series after a run of requests with plain paths are plain. -/
theorem isPlain_of_mem_series (h : IsMetered s p front behind) (app : App)
    {requests : List (Moment × Request)}
    (hpaths : ∀ x ∈ requests, RequestLabels.IsPlainText x.2.path)
    (hmethods : ∀ x ∈ requests, Method.isName x.2.method = true) :
    ∀ l ∈ (p.run app .fresh requests).2.series, l.IsPlain := by
  intro l hl
  rw [h.run_recorder, Recorder.mem_series_foldl] at hl
  obtain ⟨o, ho, rfl⟩ := List.mem_map.1 (hl.resolve_left List.not_mem_nil)
  obtain ⟨x, hx, hox⟩ := List.mem_flatMap.1 ho
  obtain ⟨status, rfl⟩ := h.exists_status_of_mem hox
  exact ⟨hpaths x hx, RequestLabels.isPlainText_of_isName (hmethods x hx)⟩

/-- The order of the requests of a run makes no difference to its counters. -/
theorem perm_counters_run (h : IsMetered s p front behind) (app : App)
    {requests others : List (Moment × Request)} (hperm : requests.Perm others) :
    (p.run app .fresh requests).2.counters.Perm
      (p.run app .fresh others).2.counters := by
  have hnodup := (h.inStep_run app requests).nodup
  have hnodup' := (h.inStep_run app others).nodup
  have hlabels := (hperm.flatMap_right (p.observations app)).map Observation.labels
  -- both runs are tallies of what they record, whatever their answers are
  rw [h.run_recorder] at hnodup hnodup' ⊢
  rw [h.run_recorder]
  exact Recorder.IsTally.perm_counters ((Recorder.isTally_foldl_iff _).2 (.refl _))
    ((Recorder.isTally_foldl_iff _).2 (.refl _)) hlabels hnodup hnodup'

end IsMetered

/-- The accounts of a run.  After every run, the counters are those of the answers, scrapes aside,
exactly when no request failed.  Histograms stand in step with the counters, or there are none.  A
scrape at this point is answered with the samples of the counters and of the histograms, and with no
others, and it changes none of them.  The order of the requests makes no difference to the samples
of the counters. -/
theorem accounting (hbuild : (build s supplied around).2 = .ok p)
    (hprometheus : s.prometheus.enabled = true) (app : App)
    {requests : List (Moment × Request)}
    (hpaths : ∀ x ∈ requests, RequestLabels.IsPlainText x.2.path)
    (hmethods : ∀ x ∈ requests, Method.isName x.2.method = true) :
    ((p.run app .fresh requests).2.IsTally
        (answeredLabels s.prometheus.path requests
          (p.run app .fresh requests).1)
      ↔ ∀ x ∈ requests, x.2.path ≠ s.prometheus.path → ¬ p.Fails app x)
    ∧ (p.run app .fresh requests).2.InStep s.prometheus.latencyHistogram
    ∧ (p.run app .fresh requests).2.bounds = Recorder.requestBounds
    ∧ (p.run app .fresh requests).2.Lists s.prometheus.latencyHistogram
    ∧ (∀ m r later, r.path = s.prometheus.path → ∃ reply response,
        (p.run app .fresh
          (requests ++ (m, r) :: later)).1[requests.length]? = some reply
        ∧ reply.outcome = .answered response ∧ response.status = 200
        ∧ (r.method = "GET" → response.body
          = Utf8.encode (p.run app .fresh requests).2.render)
        ∧ (p.run app .fresh (requests ++ [(m, r)])).2
          = (p.run app .fresh requests).2)
    ∧ ∀ others, requests.Perm others →
        (p.run app .fresh requests).2.counterSamples.Perm
          (p.run app .fresh others).2.counterSamples := by
  obtain ⟨front, behind, h⟩ := exists_isMetered hbuild hprometheus
  have hinStep := h.inStep_run app requests
  have hbounds : (p.run app .fresh requests).2.bounds
      = Recorder.requestBounds := by
    rw [h.run_recorder, Recorder.bounds_foldl]
    rfl
  have hplain := h.isPlain_of_mem_series app hpaths hmethods
  refine ⟨h.isTally_iff app _ requests, hinStep, hbounds, ?_, ?_, ?_⟩
  · refine hinStep.lists ?_ hplain
    rw [hbounds]
    decide
  · intro m r later hr
    obtain ⟨response, houtcome, hstatus, hbody, hevents⟩ := h.serve_scrape app
      ⟨m.now, m.elapsed, (p.run app .fresh requests).2⟩ hr
    refine ⟨_, response, run_getElem? p app _ requests later m r, houtcome, hstatus, hbody, ?_⟩
    rw [run_append]
    show Recorder.take _ _ = _
    unfold Recorder.take
    rw [hevents]
    rfl
  · intro others hperm
    have hplain' := h.isPlain_of_mem_series app
      (fun x hx => hpaths x (hperm.mem_iff.2 hx)) fun x hx => hmethods x (hperm.mem_iff.2 hx)
    rw [Recorder.counterSamples_eq hinStep.nodup hplain,
      Recorder.counterSamples_eq (h.inStep_run app others).nodup hplain']
    exact (h.perm_counters_run app hperm).map _

/-- Variables that ask for metrics, and for nothing else that they can turn off. -/
def metricsVariables : Environment := fun name =>
  if name = "PROMETHEUS_ENABLED" then some "true"
  else if name = "CORS_ENABLED" ∨ name = "MIDDLEWARE_GZIP_ENABLED"
      ∨ name = "MIDDLEWARE_VERBOSE_LOGGER_ENABLED" then some "false"
  else none

/-- A site with a page in a directory. -/
def pages : Site where
  directory := "./browser/dist"
  root := .directory 0 [("sub", .directory 0 [("index.html", .file ⟨Utf8.encode "s", 0⟩)])]
  webPrefix := ""

/-- Surroundings with this site. -/
def pageSurroundings : Surroundings :=
  { bareSurroundings with directory := fun _ => pages.root }

/-- A request for the directory of the page, with no slash at the end. -/
def pageRequest (query : String) : Request :=
  ⟨"GET", .relative "/sub" (some query), [], [], none⟩

/-- The file server breaks off on it when the query leaves no room for a slash. -/
theorem siteOutcome?_pageRequest {query : String} (hquery : query.utf8ByteSize = 65529) :
    Gate.siteOutcome? pages (pageRequest query) = some (.panicked FileServer.tooLong) := by
  have hrelative : Site.relativePath? pages.webPrefix.toList "/sub".toList
      = some ['s', 'u', 'b'] := by
    decide
  have huri : pages.serverUri? (pageRequest query).uri = some (pageRequest query).uri :=
    Site.serverUri?_of_shows hrelative (by decide)
  have htarget : FileServer.target "/sub" = .names ["sub"] := by
    decide
  have hdirectory : FileServer.LeadsToDirectory pages.root (pageRequest query).uri.path :=
    ⟨["sub"], 0, _, htarget, rfl⟩
  have hslash : "/sub".toList.getLast? ≠ some '/' := by
    decide
  have hlong : ¬ (FileServer.slashed (pageRequest query).uri).fits = true := by
    have hpath : ("/sub" ++ "/").utf8ByteSize = 5 := rfl
    have hsize : (FileServer.slashed (pageRequest query).uri).pathAndQuery.utf8ByteSize
        = ("/sub" ++ "/").utf8ByteSize + (1 + query.utf8ByteSize) :=
      Uri.utf8ByteSize_pathAndQuery _
    have hmax : Uri.maxBytes = 65534 := rfl
    unfold Uri.fits
    rw [decide_eq_true_eq]
    omega
  unfold Gate.siteOutcome?
  rw [if_pos (show Method.asksForPage (pageRequest query).method = true from rfl), huri,
    Option.map_some]
  exact congrArg some (FileServer.answer_eq_panicked_iff.2
    ⟨hdirectory, hslash, hlong, rfl⟩)

/-- A query that fills up the target. -/
def longQuery : List Char :=
  List.replicate 65529 'q'

theorem utf8Len_longQuery : String.utf8Len longQuery = 65529 := by
  have hreplicate (n : Nat) : String.utf8Len (List.replicate n 'q') = n := by
    induction n with
    | zero => rfl
    | succ n ih =>
      rw [List.replicate_succ, String.utf8Len_cons, ih]
      rfl
  exact hreplicate 65529

/-- A client can send this request. -/
theorem ofParts?_longRequest :
    Request.ofParts? "GET" (String.ofList (['/', 's', 'u', 'b'] ++ '?' :: longQuery)) [] []
      = some (pageRequest (String.ofList longQuery)) := by
  have hchars : ∀ c ∈ longQuery, Uri.isQueryChar c = true := by
    intro c hc
    rw [List.eq_of_mem_replicate hc]
    decide
  have hsize : String.utf8Len (['/', 's', 'u', 'b'] ++ '?' :: longQuery) = Uri.maxBytes := by
    have hpath : String.utf8Len ['/', 's', 'u', 'b'] = 4 := rfl
    have hmark : '?'.utf8Size = 1 := rfl
    have hmax : Uri.maxBytes = 65534 := rfl
    rw [String.utf8Len_append, hpath, String.utf8Len_cons, utf8Len_longQuery, hmark, hmax]
  have hpath : ∀ c ∈ ['/', 's', 'u', 'b'], Uri.isPathChar c = true :=
    List.all_eq_true.1 (by decide)
  have huri := Uri.ofText?_query hpath hchars hsize.le
  unfold Request.ofParts?
  rw [huri]
  rfl

/-- Two submissions to a route that can only be read. -/
def submissions : List (Moment × Request) :=
  [(⟨1000, ⟨0, 0⟩⟩, submission "/api/v1/me"), (⟨1001, ⟨2, 0⟩⟩, submission "/api/v1/me")]

/-- What these variables say, the gates of the pipeline built from them, and how it answers the
submissions. -/
theorem exists_build_metricsVariables :
    ∃ s p, Settings.load metricsVariables = .ok s ∧ s.prometheus.enabled = true
      ∧ s.prometheus.path = "/metrics" ∧ (build s .none pageSurroundings).2 = .ok p
      ∧ p.gates = [.recovery, .prometheus "/metrics" false, .static pages]
      ∧ answeredLabels "/metrics" submissions
        (p.run Service.app .fresh submissions).1
        = [⟨405, "/api/v1/me", "POST"⟩, ⟨405, "/api/v1/me", "POST"⟩] :=
  ⟨_, _, rfl, rfl, rfl, rfl, rfl, rfl⟩

/-- Both are counted, with the status 405, and nothing else is. -/
theorem accounting_submissions :
    ∃ s p, Settings.load metricsVariables = .ok s ∧ (build s .none pageSurroundings).2 = .ok p
      ∧ ∀ labels, (p.run Service.app .fresh submissions).2.count labels
        = if labels = ⟨405, "/api/v1/me", "POST"⟩ then 2 else 0 := by
  obtain ⟨s, p, hs, hprometheus, hpath, hp, -, hanswered⟩ := exists_build_metricsVariables
  have hsame : ∀ x ∈ submissions, x.2 = submission "/api/v1/me" := by
    intro x hx
    rcases List.mem_cons.1 hx with rfl | hx
    · rfl
    · rw [List.mem_singleton.1 hx]
  have hpaths : ∀ x ∈ submissions, RequestLabels.IsPlainText x.2.path := by
    intro x hx
    rw [hsame x hx]
    decide
  have hmethods : ∀ x ∈ submissions, Method.isName x.2.method = true := by
    intro x hx
    rw [hsame x hx]
    decide
  have hholds : ∀ x ∈ submissions, x.2.path ≠ s.prometheus.path → ¬ p.Fails Service.app x := by
    intro x hx _
    refine not_fails_of_size hp (Service.app_alwaysAnswers.handler_ne_panicked _ _ _) ?_
    rw [hsame x hx]
    decide
  have htally := (accounting hp hprometheus Service.app hpaths hmethods).1.2 hholds
  refine ⟨s, p, hs, hp, fun labels => ?_⟩
  rw [htally.count, hpath, hanswered]
  split_ifs with hlabels
  · rw [hlabels]
    rfl
  · exact List.count_eq_zero_of_not_mem (by simpa using hlabels)

/-- Not every request is counted: the client gets the status 500 for this one, which no handler of
the application has broken off, and no counter is there. -/
theorem longRequest_not_counted :
    ∃ s p r reply, Settings.load metricsVariables = .ok s ∧ s.prometheus.enabled = true
      ∧ (build s .none pageSurroundings).2 = .ok p
      ∧ Request.ofParts? "GET" (String.ofList (['/', 's', 'u', 'b'] ++ '?' :: longQuery)) [] []
        = some r
      ∧ r.path = "/sub" ∧ r.path ≠ s.prometheus.path
      ∧ (∀ r' payload,
        (p.destination Service.app r).handler r.method r' ≠ .panicked payload)
      ∧ (p.run Service.app .fresh [(⟨1000, ⟨0, 0⟩⟩, r)]).1 = [reply]
      ∧ reply.outcome.status? = some 500
      ∧ (p.run Service.app .fresh [(⟨1000, ⟨0, 0⟩⟩, r)]).2.count
        ⟨500, "/sub", "GET"⟩ = 0 := by
  obtain ⟨s, p, hs, hprometheus, hpath, hp, hgates, -⟩ := exists_build_metricsVariables
  obtain ⟨front, behind, h⟩ := exists_isMetered hp hprometheus
  set r := pageRequest (String.ofList longQuery) with hrequest
  set c : Conditions := ⟨1000, ⟨0, 0⟩, .fresh⟩ with hc
  have hr : r.path ≠ s.prometheus.path := by
    rw [hpath]
    show "/sub" ≠ "/metrics"
    decide
  have hbreaks : BreaksOff c ((p.destination Service.app r).handler r.method) p.gates r
      FileServer.tooLong := by
    have hquery : (String.ofList longQuery).utf8ByteSize = 65529 := by
      rw [String.utf8ByteSize_ofList, utf8Len_longQuery]
    have hscrape : ((Gate.prometheus "/metrics" false).enter c r).1 = .forward r :=
      enter_prometheus (hpath ▸ hr) false
    have harrives : arriving c [.recovery, .prometheus "/metrics" false] r = some r := by
      rw [arriving_of_forward (show (Gate.enter c r .recovery).1 = .forward r from rfl),
        arriving_of_forward hscrape]
      rfl
    have hsplit : p.gates
        = [.recovery, .prometheus "/metrics" false] ++ .static pages :: [] := hgates
    exact .site hsplit harrives (siteOutcome?_pageRequest hquery)
  obtain ⟨response, houtcome, hcases⟩ := h.serve_cases Service.app c hr
  rcases hcases with ⟨-, hholds⟩ | ⟨hevents, hstatus, -⟩
  · -- it would be counted if the file server answered it
    exact absurd ⟨_, hbreaks⟩ hholds
  · refine ⟨s, p, r, p.serve Service.app c r, hs, hprometheus, hp, ofParts?_longRequest, rfl, hr,
      ?_, rfl, ?_, ?_⟩
    · exact Service.app_alwaysAnswers.handler_ne_panicked _ _ _
    · rw [houtcome, Outcome.status?, hstatus]
    · show ((Recorder.fresh).take (p.serve Service.app c r).events).count _
        = 0
      rw [Recorder.count_take, hevents]
      rfl

end Pipeline

end AuthGateway
