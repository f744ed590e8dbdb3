import AuthGateway.Proofs.Http.Uri
import AuthGateway.Proofs.Pipeline.Accounting
import AuthGateway.Proofs.Telemetry.Scrape

/-!
# What scrapes show of a run

A path that a client can send is on one line, but it may have quotes and backslashes
(`Request.IsSent.notMem_path`).  So some paths look the same in a scrape, and which ones do is known
from `RequestLabels.ShownAlike`.

A scrape shows each text of labels once.  Where requests with paths that are shown alike are
recorded with the same status and method, one of their series is left, and the counts of the others
are lost; where there are none, the counts add up to all that was recorded
(`Pipeline.scrape_counts_all_iff`).
-/

namespace AuthGateway

open RequestLabels (ShownAlike)

/-! ### Requests of clients -/

/-- Whether a client can send a request. -/
def Request.IsSent (r : Request) : Prop :=
  ∃ method target headers body, Request.ofParts? method target headers body = some r

namespace Request.IsSent

variable {r : Request}

theorem isPlain_uri_and_isName (h : r.IsSent) :
    r.uri.IsPlain ∧ Method.isName r.method = true := by
  obtain ⟨method, target, headers, body, hr⟩ := h
  unfold Request.ofParts? at hr
  obtain ⟨uri, huri, hr⟩ := Option.bind_eq_some_iff.1 hr
  obtain ⟨fields, -, hr⟩ := Option.bind_eq_some_iff.1 hr
  split_ifs at hr with hmethod
  rw [← Option.some.inj hr]
  exact ⟨Uri.isPlain_of_ofText? huri, hmethod⟩

/-- The path is on one line. -/
theorem notMem_path (h : r.IsSent) : '\n' ∉ r.path.toList :=
  fun hmem => absurd (h.isPlain_uri_and_isName.1.path _ hmem) (by decide)

theorem isPlainText_method (h : r.IsSent) : RequestLabels.IsPlainText r.method :=
  RequestLabels.isPlainText_of_isName h.isPlain_uri_and_isName.2

/-- Requests with the same status have labels with the same text exactly when their methods agree
and their paths are shown alike. -/
theorem text_eq_iff {r' : Request} (h : r.IsSent) (h' : r'.IsSent) {status status' : ℕ} :
    (RequestLabels.mk status r.path r.method).text
        = (RequestLabels.mk status' r'.path r'.method).text
      ↔ status = status' ∧ ShownAlike r.path.toList r'.path.toList ∧ r.method = r'.method :=
  RequestLabels.text_eq_iff h.notMem_path h'.notMem_path h.isPlainText_method h'.isPlainText_method

end Request.IsSent

namespace Pipeline

variable {s : Settings} {supplied : Collaborators} {around : Surroundings} {p : Pipeline}
  {app : App} {front behind : List Gate}

/-! ### What a run records -/

namespace IsMetered

/-- What is recorded in a run has the path and the method of a request of the run. -/
theorem exists_of_mem_recorded (h : IsMetered s p front behind) {start : Recorder}
    {requests : List (Moment × Request)} {o : Observation}
    (ho : o ∈ p.recorded app start requests) :
    ∃ x ∈ requests, ∃ status, o.labels = ⟨status, x.2.path, x.2.method⟩ := by
  rw [h.recorded_eq] at ho
  obtain ⟨x, hx, hox⟩ := List.mem_flatMap.1 ho
  obtain ⟨status, rfl⟩ := h.exists_status_of_mem hox
  exact ⟨x, hx, status, rfl⟩

/-- A scrape is answered with what the recorder shows of the requests before it. -/
theorem exists_scrape (h : IsMetered s p front behind) (app : App) (start : Recorder)
    (requests later : List (Moment × Request)) (m : Moment) {r : Request}
    (hpath : r.path = s.prometheus.path) (hmethod : r.method = "GET") :
    ∃ reply response text, (p.run app start (requests ++ (m, r) :: later)).1[requests.length]?
        = some reply
      ∧ reply.outcome = .answered response ∧ response.status = 200
      ∧ response.body = Utf8.encode text
      ∧ Recorder.ShowsCounters text (p.run app start requests).2.shown := by
  obtain ⟨response, houtcome, hstatus, hbody, -⟩ := h.serve_scrape app
    ⟨m.now, m.elapsed, (p.run app start requests).2⟩ hpath
  exact ⟨_, response, _, run_getElem? p app start requests later m r, houtcome, hstatus,
    hbody hmethod, Recorder.showsCounters_render _⟩

end IsMetered

/-! ### Counts that are lost -/

/-- Labels of requests that clients can send, with the same status and method, have the same text
exactly when their paths are shown alike.  A scrape shows the texts of what was recorded before it,
each text once.  Its counts add up to all that was recorded exactly when, with the same status and
method, no two paths that were recorded are shown alike. -/
theorem scrape_counts_all_iff (hbuild : (build s supplied around).2 = .ok p)
    (hprometheus : s.prometheus.enabled = true) (app : App) (bounds : List Binary64)
    {requests : List (Moment × Request)} (hsent : ∀ x ∈ requests, x.2.IsSent) :
    (∀ r r' : Request, r.IsSent → r'.IsSent → r.method = r'.method → ∀ status,
      ((RequestLabels.mk status r.path r.method).text
          = (RequestLabels.mk status r'.path r'.method).text
        ↔ ShownAlike r.path.toList r'.path.toList))
    ∧ ∀ m r later, r.path = s.prometheus.path → r.method = "GET" →
      ∃ reply response text shown,
        (p.run app (.empty bounds) (requests ++ (m, r) :: later)).1[requests.length]? = some reply
        ∧ reply.outcome = .answered response ∧ response.status = 200
        ∧ response.body = Utf8.encode text
        ∧ Recorder.ShowsCounters text shown
        ∧ (shown.map Prod.fst).Nodup
        ∧ (∀ t, t ∈ shown.map Prod.fst
          ↔ ∃ o ∈ p.recorded app (.empty bounds) requests, o.labels.text = t)
        ∧ (Recorder.total shown = (p.recorded app (.empty bounds) requests).length
          ↔ ∀ o ∈ p.recorded app (.empty bounds) requests,
            ∀ o' ∈ p.recorded app (.empty bounds) requests,
              o.labels.status = o'.labels.status → o.labels.method = o'.labels.method →
              ShownAlike o.labels.path.toList o'.labels.path.toList →
              o.labels.path = o'.labels.path) := by
  constructor
  · intro r r' hr hr' hmethod status
    rw [hr.text_eq_iff hr']
    exact ⟨fun h => h.2.1, fun h => ⟨rfl, h, hmethod⟩⟩
  · intro m r later hpath hmethod
    obtain ⟨front, behind, h⟩ := exists_isMetered hbuild hprometheus
    obtain ⟨reply, response, text, hreply, houtcome, hstatus, hbody, hshows⟩ :=
      h.exists_scrape app (.empty bounds) requests later m hpath hmethod
    refine ⟨reply, response, text, _, hreply, houtcome, hstatus, hbody, hshows,
      Recorder.nodup_keys_shown _, fun t => ?_, ?_⟩
    · rw [run_snd]
      exact Recorder.mem_keys_shown_foldl _
    · rw [run_snd, Recorder.total_shown_foldl_iff]
      refine forall₂_congr fun o ho => forall₂_congr fun o' ho' => ?_
      obtain ⟨x, hx, status, hlabels⟩ := h.exists_of_mem_recorded ho
      obtain ⟨x', hx', status', hlabels'⟩ := h.exists_of_mem_recorded ho'
      rw [hlabels, hlabels', (hsent x hx).text_eq_iff (hsent x' hx'), RequestLabels.mk.injEq]
      constructor
      · intro hsame hstatuses hmethods halike
        exact (hsame ⟨hstatuses, halike, hmethods⟩).2.1
      · rintro hsame ⟨hstatuses, halike, hmethods⟩
        exact ⟨hstatuses, hsame hstatuses hmethods halike, hmethods⟩

/-- A request for a path, and nothing else. -/
def lookFor (path : String) : Request :=
  ⟨"GET", .relative path none, [], [], none⟩

/-- A client can send it when the path is a target. -/
theorem isSent_lookFor {path : String} (h : Uri.ofText? path = some (.relative path none)) :
    (lookFor path).IsSent := by
  refine ⟨"GET", path, [], [], ?_⟩
  unfold Request.ofParts?
  rw [h]
  rfl

/-- Requests for two paths, one after the other. -/
def lookUps (path path' : String) : List (Moment × Request) :=
  [(⟨1000, ⟨0, 0⟩⟩, lookFor path), (⟨1001, ⟨0, 0⟩⟩, lookFor path')]

/-- What is recorded of some requests by the pipeline built from variables that ask for metrics. -/
theorem exists_build_lookUps :
    ∃ s p, Settings.load metricsVariables = .ok s ∧ s.prometheus.enabled = true
      ∧ s.prometheus.path = "/metrics" ∧ (build s .none pageSurroundings).2 = .ok p
      ∧ (p.recorded Service.app .fresh (lookUps "/a\"" "/b\\")
        = [⟨⟨404, "/a\"", "GET"⟩, none⟩, ⟨⟨404, "/b\\", "GET"⟩, none⟩])
      ∧ p.recorded Service.app .fresh (lookUps "/a\\" "/a\\\\")
        = [⟨⟨404, "/a\\", "GET"⟩, none⟩, ⟨⟨404, "/a\\\\", "GET"⟩, none⟩] :=
  ⟨_, _, rfl, rfl, rfl, rfl, rfl, rfl⟩

/-- A quote in one path and a backslash in another one do no harm: both requests are counted. -/
theorem scrape_counts_all_quoted :
    ∃ s p reply response text shown, Settings.load metricsVariables = .ok s
      ∧ (build s .none pageSurroundings).2 = .ok p
      ∧ (p.run Service.app .fresh (lookUps "/a\"" "/b\\"
        ++ [(⟨1002, ⟨0, 0⟩⟩, lookFor "/metrics")])).1[2]? = some reply
      ∧ reply.outcome = .answered response ∧ response.status = 200
      ∧ response.body = Utf8.encode text
      ∧ Recorder.ShowsCounters text shown ∧ Recorder.total shown = 2 := by
  obtain ⟨s, p, hs, hprometheus, hpath, hp, hrecorded, -⟩ := exists_build_lookUps
  have hsent : ∀ x ∈ lookUps "/a\"" "/b\\", x.2.IsSent := by
    refine List.forall_mem_cons.2 ⟨isSent_lookFor rfl, ?_⟩
    exact List.forall_mem_singleton.2 (isSent_lookFor rfl)
  obtain ⟨reply, response, text, shown, hreply, houtcome, hstatus, hbody, hshows, -, -, htotal⟩ :=
    (scrape_counts_all_iff hp hprometheus Service.app Recorder.requestBounds hsent).2
      ⟨1002, ⟨0, 0⟩⟩ (lookFor "/metrics") [] hpath.symm rfl
  refine ⟨s, p, reply, response, text, shown, hs, hp, hreply, houtcome, hstatus, hbody, hshows,
    ?_⟩
  -- neither path is shown like the other one, as neither is written like it
  have hboth : p.recorded Service.app (.empty Recorder.requestBounds) (lookUps "/a\"" "/b\\")
      = [⟨⟨404, "/a\"", "GET"⟩, none⟩, ⟨⟨404, "/b\\", "GET"⟩, none⟩] := hrecorded
  rw [hboth] at htotal
  refine htotal.2 fun o ho o' ho' _ _ halike => ?_
  rcases List.mem_pair.1 ho with rfl | rfl
  · rcases List.mem_pair.1 ho' with rfl | rfl
    · rfl
    · exact absurd halike.escape_eq (by decide)
  · rcases List.mem_pair.1 ho' with rfl | rfl
    · exact absurd halike.escape_eq (by decide)
    · rfl

/-- Not every scrape shows all counts: two requests were recorded for different paths, and this one
shows a single counter, with the count of one of them. -/
theorem scrape_loses_count :
    ∃ s p reply response text, Settings.load metricsVariables = .ok s
      ∧ s.prometheus.enabled = true ∧ (build s .none pageSurroundings).2 = .ok p
      ∧ (∀ x ∈ lookUps "/a\\" "/a\\\\", x.2.IsSent)
      ∧ p.recorded Service.app .fresh (lookUps "/a\\" "/a\\\\")
        = [⟨⟨404, "/a\\", "GET"⟩, none⟩, ⟨⟨404, "/a\\\\", "GET"⟩, none⟩]
      ∧ (p.run Service.app .fresh (lookUps "/a\\" "/a\\\\"
        ++ [(⟨1002, ⟨0, 0⟩⟩, lookFor "/metrics")])).1[2]? = some reply
      ∧ reply.outcome = .answered response ∧ response.body = Utf8.encode text
      ∧ Recorder.ShowsCounters text [((RequestLabels.mk 404 "/a\\" "GET").text, 1)] := by
  obtain ⟨s, p, hs, hprometheus, hpath, hp, -, hrecorded⟩ := exists_build_lookUps
  obtain ⟨front, behind, h⟩ := exists_isMetered hp hprometheus
  have hsent : ∀ x ∈ lookUps "/a\\" "/a\\\\", x.2.IsSent := by
    refine List.forall_mem_cons.2 ⟨isSent_lookFor rfl, ?_⟩
    exact List.forall_mem_singleton.2 (isSent_lookFor rfl)
  obtain ⟨reply, response, text, hreply, houtcome, -, hbody, hshows⟩ :=
    h.exists_scrape Service.app .fresh (lookUps "/a\\" "/a\\\\") [] ⟨1002, ⟨0, 0⟩⟩
      (r := lookFor "/metrics") hpath.symm rfl
  refine ⟨s, p, reply, response, text, hs, hprometheus, hp, hsent, hrecorded, hreply, houtcome,
    hbody, ?_⟩
  rw [run_snd, hrecorded] at hshows
  exact hshows

end Pipeline

end AuthGateway
