import AuthGateway.Proofs.Gate.Chain
import AuthGateway.Proofs.Telemetry.Statsd
import Mathlib.Tactic.SplitIfs

/-!
# Which gates measure

Measurements are the datagrams that are sent and the observations that are recorded
(`Event.measurements`).  No gate measures a request on its way in, and on its way out only the two
gates of telemetry do (`leave_measurements`); of these, only the gate for scrapes records
(`isQuiet_observations`).

A gate is quiet when it adds no events of some kind (`Gate.IsQuiet`).  So is a chain of quiet gates
(`filterMap_of_quiet`), and quiet gates in front of a chain that let a request through unchanged
leave what happens there as it is (`filterMap_append_of_quiet`).
-/

namespace AuthGateway

/-! ### Measurements -/

namespace Event

/-- Whether an event is a measurement of a request. -/
def isMeasurement : Event → Bool
  | .sent _ | .observed _ => true
  | .logged _ | .traced _ | .checked _ => false

/-- The measurements among events. -/
def measurements (events : List Event) : List Event :=
  events.filter isMeasurement

@[simp] theorem measurements_append (front back : List Event) :
    measurements (front ++ back) = measurements front ++ measurements back :=
  List.filter_append front back

/-- Log entries are no measurements. -/
theorem measurements_logged (entries : List LogEntry) :
    measurements (entries.map .logged) = [] := by
  refine List.filter_eq_nil_iff.2 fun e he => ?_
  obtain ⟨entry, -, rfl⟩ := List.mem_map.1 he
  exact Bool.false_ne_true

/-- Datagrams are measurements. -/
theorem measurements_sent (datagrams : List String) :
    measurements (datagrams.map .sent) = datagrams.map .sent := by
  refine List.filter_eq_self.2 fun e he => ?_
  obtain ⟨d, -, rfl⟩ := List.mem_map.1 he
  rfl

/-- All observations are among the measurements. -/
theorem observations_measurements (events : List Event) :
    (measurements events).filterMap observation? = events.filterMap observation? := by
  unfold measurements
  rw [List.filterMap_filter]
  congr 1
  funext e
  cases e <;> rfl

/-- All datagrams are among the measurements. -/
theorem datagrams_measurements (events : List Event) :
    (measurements events).filterMap datagram? = events.filterMap datagram? := by
  unfold measurements
  rw [List.filterMap_filter]
  congr 1
  funext e
  cases e <;> rfl

/-- Datagrams are sent as they are. -/
theorem datagrams_sent (datagrams : List String) :
    (datagrams.map sent).filterMap datagram? = datagrams := by
  rw [List.filterMap_map]
  exact List.filterMap_some

/-- A datagram is no observation. -/
theorem observations_sent (datagrams : List String) :
    (datagrams.map sent).filterMap observation? = [] := by
  rw [List.filterMap_map]
  exact List.filterMap_eq_nil_iff.2 fun _ _ => rfl

end Event

open Event (measurements measurements_append measurements_logged)

/-! ### Gates -/

namespace Stage

/-- The stages of telemetry that measure requests. -/
def measuring : List Stage :=
  [statsd, prometheus]

end Stage

variable {c : Conditions} {r : Request}

/-- Carrying out a decision only logs what is rejected. -/
theorem events_settle (responder : Responder) (r : Request) (d : Decision × List Event) :
    ∃ entries : List LogEntry, (Gate.settle responder r d).2 = d.2 ++ entries.map .logged
      ∧ ∀ entry ∈ entries, entry.target = "edge.auth.reject" := by
  obtain ⟨decision, events⟩ := d
  cases decision with
  | ok context => exact ⟨[], (List.append_nil _).symm, List.forall_mem_nil _⟩
  | error reason =>
    exact ⟨[responder.rejectionEntry reason r.path], rfl, List.forall_mem_singleton.2 rfl⟩

/-- Carrying out a decision measures nothing that was not measured before. -/
theorem settle_measurements {responder : Responder} {d : Decision × List Event}
    (hd : measurements d.2 = []) : measurements (Gate.settle responder r d).2 = [] := by
  obtain ⟨entries, hevents, -⟩ := events_settle responder r d
  rw [hevents, measurements_append, hd, measurements_logged]
  rfl

/-- No gate measures a request on its way in. -/
theorem enter_measurements (g : Gate) : measurements (g.enter c r).2 = [] := by
  cases g with
  | auth g =>
    refine settle_measurements ?_
    unfold TokenGate.decide
    split_ifs
    · rfl
    · split
      · exact measurements_logged _
      · rfl
      · rfl
  | groupClaim g =>
    refine settle_measurements ?_
    unfold GroupGate.decide
    split
    · rfl
    · split
      · rfl
      · split_ifs <;> rfl
  | recovery | compression | verboseLogging | statsd | prometheus | apm | cors | static
  | profiling | stripPrefix => rfl

/-- On the way out only the gates of telemetry measure. -/
theorem leave_measurements {g : Gate} (hg : g.stage ∉ Stage.measuring) (outcome : Outcome) :
    measurements (g.leave c r outcome).2 = [] := by
  cases g with
  | recovery =>
    cases outcome with
    | answered response => rfl
    | panicked payload => exact measurements_logged _
  | statsd | prometheus => exact absurd hg (by simp [Gate.stage, Stage.measuring])
  | compression | verboseLogging | apm | cors | auth | groupClaim | static | profiling
  | stripPrefix => rfl

/-! ### Chains -/

/-- A gate that settles a request is where the chain ends. -/
theorem serveThrough_eq_of_settled {g : Gate} {outcome : Outcome}
    (hg : (g.enter c r).1 = .settled outcome) (h : Handler) (gates : List Gate) :
    serveThrough c h (g :: gates) r = ⟨(g.enter c r).2, outcome⟩ := by
  rw [serveThrough]
  cases hpassage : g.enter c r with
  | mk passage events =>
    obtain rfl : passage = .settled outcome := by rw [← hg, hpassage]
    rfl

/-- What happens at a gate that lets a request through happens around what happens behind it. -/
theorem serveThrough_eq_of_forward {g : Gate} {r' : Request}
    (hg : (g.enter c r).1 = .forward r') (h : Handler) (gates : List Gate) :
    (serveThrough c h (g :: gates) r).events
      = (g.enter c r).2 ++ (serveThrough c h gates r').events
        ++ (g.leave c r (serveThrough c h gates r').outcome).2 := by
  rw [serveThrough_cons_of_forward hg]

/-- A gate that adds no events of some kind. -/
structure Gate.IsQuiet {β : Type} (kind : Event → Option β) (c : Conditions) (g : Gate) :
    Prop where
  enter (r : Request) : (g.enter c r).2.filterMap kind = []
  leave (r : Request) (outcome : Outcome) : (g.leave c r outcome).2.filterMap kind = []

section Quiet

variable {β : Type} {kind : Event → Option β} {h : Handler}

/-- In front of a chain, a quiet gate that lets a request through makes no difference. -/
theorem filterMap_cons_of_quiet {g : Gate} {r' : Request} (hg : g.IsQuiet kind c)
    (henter : (g.enter c r).1 = .forward r') (gates : List Gate) :
    (serveThrough c h (g :: gates) r).events.filterMap kind
      = (serveThrough c h gates r').events.filterMap kind := by
  rw [serveThrough_eq_of_forward henter, List.filterMap_append, List.filterMap_append, hg.enter,
    hg.leave, List.nil_append, List.append_nil]

/-- A chain of quiet gates is quiet. -/
theorem filterMap_of_quiet {gates : List Gate} (hgates : ∀ g ∈ gates, g.IsQuiet kind c)
    (r : Request) : (serveThrough c h gates r).events.filterMap kind = [] := by
  induction gates generalizing r with
  | nil => rfl
  | cons g gates ih =>
    have hg := hgates g List.mem_cons_self
    cases henter : (g.enter c r).1 with
    | settled outcome => rw [serveThrough_eq_of_settled henter, hg.enter]
    | forward r' =>
      rw [filterMap_cons_of_quiet hg henter]
      exact ih (fun g' hg' => hgates g' (List.mem_cons_of_mem g hg')) r'

/-- Quiet gates in front that let a request through unchanged make no difference. -/
theorem filterMap_append_of_quiet {front : List Gate}
    (hfront : ∀ g ∈ front, g.IsQuiet kind c ∧ (g.enter c r).1 = .forward r) (back : List Gate) :
    (serveThrough c h (front ++ back) r).events.filterMap kind
      = (serveThrough c h back r).events.filterMap kind := by
  induction front with
  | nil => rfl
  | cons g front ih =>
    obtain ⟨hg, henter⟩ := hfront g List.mem_cons_self
    rw [List.cons_append, filterMap_cons_of_quiet hg henter]
    exact ih fun g' hg' => hfront g' (List.mem_cons_of_mem g hg')

end Quiet

/-- The gates that are none of telemetry measure nothing. -/
theorem isQuiet_measurements {g : Gate} (hg : g.stage ∉ Stage.measuring) :
    g.IsQuiet (Option.guard Event.isMeasurement) c := by
  constructor
  · intro r
    rw [List.filterMap_eq_filter]
    exact enter_measurements g
  · intro r outcome
    rw [List.filterMap_eq_filter]
    exact leave_measurements hg outcome

/-- A chain without gates of telemetry measures nothing. -/
theorem serveThrough_measurements {gates : List Gate}
    (hgates : ∀ g ∈ gates, g.stage ∉ Stage.measuring) (h : Handler) (r : Request) :
    measurements (serveThrough c h gates r).events = [] := by
  have hquiet := filterMap_of_quiet (c := c) (h := h)
    (fun g hg => isQuiet_measurements (hgates g hg)) r
  rw [List.filterMap_eq_filter] at hquiet
  exact hquiet

/-- Gates in front that let a request through unchanged and are none of telemetry measure nothing
either. -/
theorem serveThrough_append_measurements {front : List Gate}
    (hfront : ∀ g ∈ front, g.stage ∉ Stage.measuring ∧ (g.enter c r).1 = .forward r) (h : Handler)
    (back : List Gate) : measurements (serveThrough c h (front ++ back) r).events
      = measurements (serveThrough c h back r).events := by
  have hquiet := filterMap_append_of_quiet (h := h)
    (fun g hg => ⟨isQuiet_measurements (hfront g hg).1, (hfront g hg).2⟩) back
  rw [List.filterMap_eq_filter] at hquiet
  exact hquiet

/-- The measurements of a chain are made behind its first gate and at that gate, on the way out. -/
theorem measurements_of_forward {g : Gate} {r' : Request} (hg : (g.enter c r).1 = .forward r')
    (h : Handler) (gates : List Gate) : measurements (serveThrough c h (g :: gates) r).events
      = measurements (serveThrough c h gates r').events
        ++ measurements (g.leave c r (serveThrough c h gates r').outcome).2 := by
  rw [serveThrough_eq_of_forward hg, measurements_append, measurements_append, enter_measurements,
    List.nil_append]

/-- Only the gate for scrapes records. -/
theorem isQuiet_observations {g : Gate} (hg : g.stage ≠ .prometheus) :
    g.IsQuiet Event.observation? c := by
  have henter (r : Request) : (g.enter c r).2.filterMap Event.observation? = [] := by
    rw [← Event.observations_measurements, enter_measurements]
    rfl
  refine ⟨henter, fun r outcome => ?_⟩
  by_cases hmeasuring : g.stage ∈ Stage.measuring
  · cases g with
    | statsd client =>
      cases outcome with
      | answered response =>
        simp only [Gate.leave, Outcome.status?, Option.map_some, Option.getD_some]
        unfold Gate.measurements
        exact Event.observations_sent _
      | panicked payload => rfl
    | prometheus => exact absurd rfl hg
    | recovery | compression | verboseLogging | apm | cors | auth | groupClaim | static | profiling
    | stripPrefix => exact absurd hmeasuring (by simp [Gate.stage, Stage.measuring])
  · rw [← Event.observations_measurements, leave_measurements hmeasuring]
    rfl

/-! ### The gates of telemetry -/

/-- A value as it stands in a line: there is a `_` for everything that ends a tag, a part of a line
or a line. -/
def Gate.shown (value : String) : String :=
  String.ofList (value.toList.map fun c =>
    if c = '|' ∨ c = ',' ∨ c = '#' ∨ Text.isControl c then '_' else c)

/-- The lines about an answer with a status: a count and a duration, both with the labels of the
request. -/
def Gate.lines (client : StatsdClient) (elapsed : Duration) (r : Request) (status : Nat) :
    List String :=
  let about := "|#status:" ++ toString status ++ ",path:" ++ shown r.path
    ++ ",method:" ++ shown r.method
  [client.namePrefix ++ "http.requests.count:1|c" ++ about,
    client.namePrefix ++ "http.requests.duration:" ++ toString (milliseconds elapsed) ++ "|ms"
      ++ about]

/-- The tags of a request and of the status of its answer. -/
def Gate.tags (r : Request) (status : Nat) : List (String × String) :=
  [("status", toString status), ("path", r.path), ("method", r.method)]

theorem tagPart_tags (r : Request) (status : Nat) : StatsdClient.tagPart (Gate.tags r status)
    = ("|#status:" ++ toString status ++ ",path:" ++ Gate.shown r.path
      ++ ",method:" ++ Gate.shown r.method).toList := by
  have hstatus : StatsdClient.tagValue status.repr = status.repr.toList :=
    StatsdClient.tagValue_of_isPlain (StatsdClient.isPlain_toString status)
  have hshown (value : String) : (Gate.shown value).toList = StatsdClient.tagValue value :=
    String.toList_ofList
  simp [Gate.tags, StatsdClient.tagPart, StatsdClient.tag, List.intercalate, hshown, hstatus]

/-- The client writes just these lines. -/
theorem map_ofList_line (client : StatsdClient) (elapsed : Duration) (r : Request) (status : Nat) :
    [client.line Gate.countName .increment (Gate.tags r status),
        client.line Gate.durationName (.milliseconds (Gate.milliseconds elapsed))
          (Gate.tags r status)].map String.ofList
      = Gate.lines client elapsed r status := by
  have hone : Nat.toDigits 10 1 = ['1'] := rfl
  have hcount : client.line Gate.countName .increment (Gate.tags r status)
      = (client.namePrefix ++ "http.requests.count:1|c").toList
        ++ StatsdClient.tagPart (Gate.tags r status) := by
    simp [StatsdClient.line, Gate.countName, Measurement.value, Measurement.kind, hone]
  have hduration : client.line Gate.durationName (.milliseconds (Gate.milliseconds elapsed))
        (Gate.tags r status)
      = (client.namePrefix ++ "http.requests.duration:" ++ toString (Gate.milliseconds elapsed)
        ++ "|ms").toList ++ StatsdClient.tagPart (Gate.tags r status) := by
    simp [StatsdClient.line, Gate.durationName, Measurement.value, Measurement.kind]
  rw [List.map_cons, List.map_singleton, hcount, hduration, tagPart_tags, ← String.toList_append,
    ← String.toList_append, String.ofList_toList, String.ofList_toList, Gate.lines]

/-- The two lines are sent, but for one that no datagram can hold. -/
theorem datagrams_lines (client : StatsdClient) (elapsed : Duration) (r : Request) (status : Nat) :
    (Gate.measurements client elapsed r status).filterMap Event.datagram?
      = (Gate.lines client elapsed r status).filter (·.utf8ByteSize ≤ 65507) := by
  rw [← map_ofList_line, ← StatsdClient.maxDatagram, ← StatsdClient.flatMap_datagrams]
  exact Event.datagrams_sent _

/-- What the gates of telemetry measure of an answer with a status. -/
def Gate.measured (client : StatsdClient) (latency : Bool) (elapsed : Duration) (r : Request)
    (status : Nat) : List Event :=
  .observed (observation latency elapsed r status) :: measurements client elapsed r status

/-- All that the statsd gate sends is measured. -/
theorem measurements_measurements (client : StatsdClient) (elapsed : Duration) (r : Request)
    (status : Nat) : measurements (Gate.measurements client elapsed r status)
      = Gate.measurements client elapsed r status := by
  unfold Gate.measurements
  exact Event.measurements_sent _

/-- An answer is recorded once. -/
theorem observations_measured (client : StatsdClient) (latency : Bool) (elapsed : Duration)
    (r : Request) (status : Nat) :
    (Gate.measured client latency elapsed r status).filterMap Event.observation?
      = [Gate.observation latency elapsed r status] := by
  unfold Gate.measured Gate.measurements
  dsimp only
  rw [List.filterMap_cons, Event.observations_sent]
  rfl

theorem datagrams_measured (client : StatsdClient) (latency : Bool) (elapsed : Duration)
    (r : Request) (status : Nat) :
    (Gate.measured client latency elapsed r status).filterMap Event.datagram?
      = (Gate.lines client elapsed r status).filter (·.utf8ByteSize ≤ 65507) := by
  have hobserved (o : Observation) : Event.datagram? (.observed o) = none := rfl
  rw [Gate.measured, List.filterMap_cons_none (hobserved _), datagrams_lines]

/-- A request that is no scrape passes the gate for scrapes. -/
theorem enter_prometheus {path : String} (hr : r.path ≠ path) (latency : Bool) :
    ((Gate.prometheus path latency).enter c r).1 = .forward r := by
  rw [Gate.enter, Gate.scrapeAnswer?, if_neg hr]
  rfl

/-- The gates of telemetry keep the outcome behind them, and measure it when it is an answer. -/
theorem serveThrough_measuring {path : String} {gates : List Gate} (hr : r.path ≠ path)
    (hgates : ∀ g ∈ gates, g.stage ∉ Stage.measuring) (h : Handler) (client : StatsdClient)
    (latency : Bool) :
    (serveThrough c h (.statsd client :: .prometheus path latency :: gates) r).outcome
        = (serveThrough c h gates r).outcome
      ∧ measurements
          (serveThrough c h (.statsd client :: .prometheus path latency :: gates) r).events
        = ((serveThrough c h gates r).outcome.status?.map
          (Gate.measured client latency c.elapsed r)).getD [] := by
  have hscrape := enter_prometheus (c := c) hr latency
  have hstatsd : ((Gate.statsd client).enter c r).1 = .forward r := rfl
  have hinner : (serveThrough c h (.prometheus path latency :: gates) r).outcome
      = (serveThrough c h gates r).outcome := serveThrough_of_forward hscrape h gates
  refine ⟨(serveThrough_of_forward hstatsd h _).trans hinner, ?_⟩
  rw [measurements_of_forward hstatsd, measurements_of_forward hscrape,
    serveThrough_measurements hgates, hinner, List.nil_append]
  cases (serveThrough c h gates r).outcome with
  | answered response =>
    have hobserved (o : Observation) : measurements [.observed o] = [.observed o] := rfl
    simp only [Gate.leave, Outcome.status?, Option.map_some, Option.toList_some, Option.getD_some]
    rw [hobserved, measurements_measurements, List.singleton_append]
    unfold Gate.measured
    rfl
  | panicked payload => rfl

end AuthGateway
