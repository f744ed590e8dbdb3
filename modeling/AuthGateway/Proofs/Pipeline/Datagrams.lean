import AuthGateway.Proofs.Pipeline.Observation
import AuthGateway.Proofs.Telemetry.Statsd

/-!
# What a statsd agent reads

Of all gates only the one of statsd sends datagrams (`isQuiet_datagrams`), and those in front of it
keep the status of an answer.  So the datagrams of a request that was answered are two lines with
the status that the client gets, and an agent reads from them what was measured, whatever the target
and the method of the request are (`Pipeline.datagrams_serve`).
-/

namespace AuthGateway

open StatsdLine (IsPlain Reads)

/-! ### Gates and datagrams -/

/-- Only the gate of statsd sends datagrams. -/
theorem isQuiet_datagrams {c : Conditions} {g : Gate} (hg : g.stage ≠ .statsd) :
    g.IsQuiet Event.datagram? c := by
  constructor
  · intro r
    rw [← Event.datagrams_measurements, enter_measurements]
    rfl
  · intro r outcome
    by_cases hmeasuring : g.stage ∈ Stage.measuring
    · cases g with
      | prometheus path latency => cases outcome <;> rfl
      | statsd => exact absurd rfl hg
      | recovery | compression | verboseLogging | apm | cors | auth | groupClaim | static
      | profiling | stripPrefix => exact absurd hmeasuring (by simp [Gate.stage, Stage.measuring])
    · rw [← Event.datagrams_measurements, leave_measurements hmeasuring]
      rfl

namespace Stage

/-- The stages behind statsd. -/
def counted : List Stage :=
  prometheus :: observed

theorem all_eq_counted : all = surrounding ++ statsd :: counted :=
  rfl

end Stage

namespace Pipeline

variable {s : Settings} {supplied : Collaborators} {around : Surroundings} {p : Pipeline}

/-- The gates of a pipeline with the gate of statsd. -/
theorem gates_of_build_statsd (hbuild : (build s supplied around).2 = .ok p)
    (hstatsd : s.statsd.enabled = true) :
    ∃ front behind, p.gates = front ++ .statsd (Startup.clientOf s supplied) :: behind
      ∧ (Startup.gatesStep s supplied around
        (Stage.surrounding.filter (Stage.isEnabled s))).2 = .ok front
      ∧ (Startup.gatesStep s supplied around
        (Stage.counted.filter (Stage.isEnabled s))).2 = .ok behind := by
  have hgates := gatesStep_of_build hbuild
  rw [Settings.stages, Stage.all_eq_counted, List.filter_append,
    List.filter_cons_of_pos (show Stage.isEnabled s .statsd = true from hstatsd)] at hgates
  obtain ⟨front, rest, hfront, hrest, hp⟩ := Startup.gatesStep_append_eq_ok.1 hgates
  obtain ⟨gate, behind, hgate, hbehind, rfl⟩ := Startup.gatesStep_cons_eq_ok.1 hrest
  obtain ⟨client, hclient, rfl⟩ := exists_of_map_eq_ok hgate
  exact ⟨front, behind, by rw [hp, Startup.client_of_statsdStep hclient], hfront, hbehind⟩

/-- A request that is answered is told about in two lines, with the status of the answer. -/
theorem datagrams_serve (hbuild : (build s supplied around).2 = .ok p)
    (hstatsd : s.statsd.enabled = true) (app : App) (c : Conditions) (r : Request)
    (hholds : ¬ ∃ payload, BreaksOff c ((p.destination app r).handler r.method) p.gates r payload) :
    ∃ response, (p.serve app c r).outcome = .answered response
      ∧ (p.serve app c r).events.filterMap Event.datagram?
        = (Gate.lines (Startup.clientOf s supplied) c.elapsed r response.status).filter
          (·.utf8ByteSize ≤ 65507) := by
  obtain ⟨front, behind, hp, hfront, hbehind⟩ := gates_of_build_statsd hbuild hstatsd
  set client := Startup.clientOf s supplied
  set h := (p.destination app r).handler r.method
  have hinside : ∀ g ∈ behind, g.stage ≠ .statsd ∧ g.stage ≠ .recovery := by
    have hapart : ∀ stage ∈ Stage.counted, stage ≠ .statsd ∧ stage ≠ .recovery := by
      decide
    intro g hg
    exact hapart g.stage (Startup.stage_mem_of_enabled hbehind hg)
  have hforward := forward_of_surrounding (c := c) (r := r) hfront
  have hpass : ((Gate.statsd client).enter c r).1 = .forward r := rfl
  have hquiet : ∀ g ∈ front, g.IsQuiet Event.datagram? c ∧ (g.enter c r).1 = .forward r := by
    intro g hg
    refine ⟨isQuiet_datagrams fun hstage => ?_, hforward g hg⟩
    have hmeasuring := (outer_of_mem_surrounding (r := r)
      (Startup.stage_mem_of_gatesStep hfront hg)).2.1
    exact hmeasuring (by rw [hstage]; decide)
  -- statsd sees what becomes of the request behind it, where no recovery gate stands
  cases hinner : (serveThrough c h behind r).outcome with
  | answered response =>
    obtain ⟨delivered, hdelivered, hstatus⟩ : ∃ delivered, (p.serve app c r).outcome
        = .answered delivered ∧ delivered.status = response.status :=
      serve_of_surrounding hp hfront ((serveThrough_of_forward hpass h behind).trans hinner)
    refine ⟨delivered, hdelivered, ?_⟩
    -- all datagrams are those of statsd itself: the gates on both sides are quiet
    show (serveThrough c h p.gates r).events.filterMap _ = _
    rw [hp, filterMap_append_of_quiet hquiet, serveThrough_eq_of_forward hpass,
      List.filterMap_append, List.filterMap_append,
      filterMap_of_quiet fun g hg => isQuiet_datagrams (hinside g hg).1]
    have henter : ((Gate.statsd client).enter c r).2 = [] := rfl
    have hleave : ((Gate.statsd client).leave c r (.answered response)).2
        = Gate.measurements client c.elapsed r response.status := by
      simp only [Gate.leave, Outcome.status?, Option.map_some, Option.getD_some]
    rw [hinner, hleave, datagrams_lines, hstatus, henter, List.filterMap_nil, List.nil_append,
      List.nil_append]
  | panicked payload =>
    refine absurd ⟨payload, ?_⟩ hholds
    rw [hp, breaksOff_append_of_forward hforward, breaksOff_cons_of_forward hpass,
      ← outcome_eq_panicked_iff fun g hg => (hinside g hg).2]
    exact hinner

/-- Lines are read as they were written where the prefix, the name and the keys of the tags are
plain, whatever the values of the tags are.  So, under a plain prefix, the datagrams of a request
that is answered are a count and then a time, but for lines that no datagram can hold, and both are
read with exactly three tags: the status of the answer, and the path and the method of the
request. -/
theorem lines_read_back :
    (∀ (client : StatsdClient) (name : String) (tags : List (String × String)),
        IsPlain client.namePrefix → IsPlain name → (∀ t ∈ tags, IsPlain t.1) →
        Reads (client.line name .increment tags) (client.namePrefix ++ name) 1 "c" tags
          ∧ ∀ n, Reads (client.line name (.milliseconds n) tags) (client.namePrefix ++ name) n "ms"
            tags)
      ∧ ∀ (s : Settings) (supplied : Collaborators) (around : Surroundings) (p : Pipeline),
        (build s supplied around).2 = .ok p → s.statsd.enabled = true →
        IsPlain (Startup.clientOf s supplied).namePrefix →
        ∀ (app : App) (c : Conditions) (r : Request), (¬ ∃ payload, BreaksOff c
            ((p.destination app r).handler r.method) p.gates r payload) →
          ∃ response count timing, (p.serve app c r).outcome = .answered response
            ∧ (p.serve app c r).events.filterMap Event.datagram?
              = ([count, timing].map String.ofList).filter (·.utf8ByteSize ≤ 65507)
            ∧ Reads count ((Startup.clientOf s supplied).namePrefix ++ "http.requests.count") 1 "c"
              [("status", toString response.status), ("path", r.path), ("method", r.method)]
            ∧ Reads timing ((Startup.clientOf s supplied).namePrefix ++ "http.requests.duration")
              (Gate.milliseconds c.elapsed) "ms"
              [("status", toString response.status), ("path", r.path), ("method", r.method)] := by
  constructor
  · intro client name tags hclient hname htags
    exact ⟨StatsdClient.reads_line hclient hname htags,
      fun _ => StatsdClient.reads_line hclient hname htags⟩
  · intro s supplied around p hbuild hstatsd hclient app c r hholds
    obtain ⟨response, houtcome, hdatagrams⟩ := datagrams_serve hbuild hstatsd app c r hholds
    rw [← map_ofList_line] at hdatagrams
    have hkeys : ∀ t ∈ Gate.tags r response.status, IsPlain t.1 := by
      have hplain : IsPlain "status" ∧ IsPlain "path" ∧ IsPlain "method" := by decide
      simpa [Gate.tags] using hplain
    refine ⟨response, _, _, houtcome, hdatagrams, ?_, ?_⟩
    · exact StatsdClient.reads_line hclient (by decide) hkeys
    · exact StatsdClient.reads_line hclient (by decide) hkeys

/-- Tags whose values hold every separator and a line end. -/
def hostileTags : List (String × String) :=
  [("status", "200"), ("path", "/a,status:500|c#x\nother:1")]

/-- A path with separators in it adds no tag: neither to a line on its own, nor to those about a
submission there. -/
theorem lines_read_back_hostile :
    (IsPlain "edge." ∧ IsPlain "count" ∧ (∀ t ∈ hostileTags, IsPlain t.1)
        ∧ Reads ((StatsdClient.mk "edge.").line "count" .increment hostileTags) "edge.count" 1 "c"
          hostileTags)
      ∧ ∃ s p, (build s .none bareSurroundings).2 = .ok p ∧ s.statsd.enabled = true
        ∧ IsPlain (Startup.clientOf s .none).namePrefix
        ∧ (¬ ∃ payload, BreaksOff ⟨1000, ⟨0, 0⟩, p.recorder⟩
          ((p.destination Service.app (submission "/a,status:500|c")).handler "POST") p.gates
          (submission "/a,status:500|c") payload)
        ∧ ∃ response count, (p.serve Service.app ⟨1000, ⟨0, 0⟩, p.recorder⟩
            (submission "/a,status:500|c")).outcome = .answered response
          ∧ Reads count ((Startup.clientOf s .none).namePrefix ++ "http.requests.count") 1 "c"
            [("status", toString response.status), ("path", "/a,status:500|c"),
              ("method", "POST")] := by
  obtain ⟨hline, hserve⟩ := lines_read_back
  have hclient : IsPlain "edge." := by decide
  have hname : IsPlain "count" := by decide
  have hkeys : ∀ t ∈ hostileTags, IsPlain t.1 := by decide
  refine ⟨⟨hclient, hname, hkeys, (hline ⟨"edge."⟩ "count" hostileTags hclient hname hkeys).1⟩, ?_⟩
  obtain ⟨s, p, -, hstatsd, hdefault, hwebPrefix, hp⟩ :
      ∃ s p, Settings.load telemetryVariables = .ok s ∧ s.statsd.enabled = true
        ∧ (Startup.clientOf s .none).namePrefix = "edge." ∧ s.webPrefix = ""
        ∧ (build s .none bareSurroundings).2 = .ok p := ⟨_, _, rfl, rfl, rfl, rfl, rfl⟩
  have hplain : IsPlain (Startup.clientOf s .none).namePrefix := by
    rw [hdefault]
    exact hclient
  have hholds : ¬ ∃ payload, BreaksOff ⟨1000, ⟨0, 0⟩, p.recorder⟩
      ((p.destination Service.app (submission "/a,status:500|c")).handler "POST") p.gates
      (submission "/a,status:500|c") payload := by
    rintro ⟨payload, hbreaks⟩
    obtain ⟨r', -, hhandler⟩ := (breaksOff_iff_of_not_asksForPage (by decide)).1 hbreaks
    have hanswer : (p.destination Service.app (submission "/a,status:500|c")).handler "POST" r'
        = Service.notFound r' := by
      unfold destination
      rw [webPrefix_of_build hp, hwebPrefix]
      rfl
    exact absurd (hanswer.symm.trans hhandler) (by simp [Service.notFound])
  obtain ⟨response, count, -, houtcome, -, hcount, -⟩ :=
    hserve s .none bareSurroundings p hp hstatsd hplain Service.app ⟨1000, ⟨0, 0⟩, p.recorder⟩
      (submission "/a,status:500|c") hholds
  exact ⟨s, p, hp, hstatsd, hplain, hholds, response, count, houtcome, hcount⟩

end Pipeline

end AuthGateway
