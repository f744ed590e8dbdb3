import AuthGateway.Proofs.Gate.Admission
import AuthGateway.Proofs.Gate.Simulation

/-!
# What is logged about admission

Gates log about admission on the way in only (`logs_leave`), so what a chain logs about it is what
happens to the request while it enters the gates (`entering`, `logs_serveThrough`).  There the judge
of tokens writes what it has to say about the tokens that it is asked about (`TokenJudge.words`,
`TokenGate.logs_decide`), and a gate that turns the request away adds one entry
(`Gate.logs_settle`).
-/

namespace AuthGateway

open Event (tokens)

/-! ### Entries -/

/-- The targets of entries about admission. -/
def LogEntry.admissionTargets : List String :=
  ["edge.auth.jwt", "edge.auth.reject"]

namespace Event

/-- The log entries of some kind among events. -/
def logs (P : LogEntry → Bool) (events : List Event) : List LogEntry :=
  events.filterMap fun e => e.entry?.filter P

variable {P : LogEntry → Bool}

@[simp] theorem logs_append (front back : List Event) :
    logs P (front ++ back) = logs P front ++ logs P back :=
  List.filterMap_append

@[simp] theorem logs_cons_checked (token : String) (events : List Event) :
    logs P (.checked token :: events) = logs P events :=
  rfl

@[simp] theorem logs_logged (entries : List LogEntry) :
    logs P (entries.map .logged) = entries.filter P := by
  unfold logs
  rw [List.filterMap_map, ← List.filterMap_eq_filter]
  rfl

theorem logs_sent (datagrams : List String) : logs P (datagrams.map .sent) = [] := by
  unfold logs
  rw [List.filterMap_map]
  exact List.filterMap_eq_nil_iff.2 fun _ _ => rfl

end Event

open Event (logs)

/-- What a judge has to say, of some kind, about tokens that it is asked about. -/
def TokenJudge.words (judge : TokenJudge) (P : LogEntry → Bool) (now : Int)
    (tokens : List String) : List LogEntry :=
  tokens.flatMap fun token => (judge.log now token).filter P

theorem TokenJudge.words_append (judge : TokenJudge) (P : LogEntry → Bool) (now : Int)
    (front back : List String) :
    judge.words P now (front ++ back) = judge.words P now front ++ judge.words P now back :=
  List.flatMap_append

/-! ### One gate -/

section Gates

variable {P : LogEntry → Bool} {c : Conditions} {r : Request}

/-- On the way out nothing is logged about admission. -/
theorem logs_leave (hP : ∀ entry, P entry = true → entry.target ∈ LogEntry.admissionTargets)
    (g : Gate) (outcome : Outcome) : logs P (g.leave c r outcome).2 = [] := by
  cases g with
  | recovery =>
    cases outcome with
    | answered response => rfl
    | panicked payload =>
      -- the entries about a handler that broke off have targets of their own
      simp only [Gate.leave, Gate.recover, Event.logs_logged, Fault.log]
      refine List.filter_eq_nil_iff.2 fun entry hentry hkind => ?_
      have htarget := hP entry hkind
      simp only [List.mem_cons, List.not_mem_nil, or_false] at hentry
      rcases hentry with rfl | rfl <;> exact absurd htarget (by simp [LogEntry.admissionTargets])
  | statsd client =>
    cases outcome with
    | answered response =>
      simp only [Gate.leave, Outcome.status?, Option.map_some, Option.getD_some]
      unfold Gate.measurements
      exact Event.logs_sent _
    | panicked payload => rfl
  | prometheus path latency => cases outcome <;> rfl
  | compression | verboseLogging | apm | cors | auth | groupClaim | static | profiling
  | stripPrefix => rfl

/-- While it decides, the token gate leaves the words to its judge. -/
theorem TokenGate.logs_decide (g : TokenGate) (now : Int) (r : Request) :
    logs P (g.decide now r).2 = g.judge.words P now (tokens (g.decide now r).2) := by
  unfold decide
  split_ifs
  · rfl
  · split
    · rename_i token _
      simp [TokenJudge.words]
    · rfl
    · rfl

/-- While it decides, the token gate puts the token of a closed path to its judge, and no other. -/
theorem TokenGate.tokens_decide (g : TokenGate) (now : Int) (r : Request) :
    ∃ asked : Option String, (∀ token, asked = some token ↔ g.isOpen r.path = false
        ∧ Extraction.ofHeaders r.headers g.cookieName = .found token)
      ∧ tokens (g.decide now r).2 = asked.toList := by
  unfold decide
  cases g.isOpen r.path with
  | true => exact ⟨none, by simp, rfl⟩
  | false =>
    cases Extraction.ofHeaders r.headers g.cookieName with
    | absent | malformed => exact ⟨none, by simp, rfl⟩
    | found token => exact ⟨some token, by simp, by simp⟩

/-- While it decides, the group gate asks nobody. -/
theorem GroupGate.tokens_decide (g : GroupGate) (context : Option RequestContext) :
    tokens (g.decide context).2 = [] := by
  unfold decide
  split
  · rfl
  · split
    · rfl
    · split_ifs <;> rfl

/-- While it decides, the group gate says nothing about admission. -/
theorem GroupGate.logs_decide
    (hP : ∀ entry, P entry = true → entry.target ∈ LogEntry.admissionTargets) (g : GroupGate)
    (context : Option RequestContext) : logs P (g.decide context).2 = [] := by
  -- what it says where nobody has decided yet has a target of its own
  have hnone : ¬ P noContextEntry = true := fun hkind => absurd (hP _ hkind) (by decide)
  unfold decide
  split
  · show logs P ([noContextEntry].map .logged) = []
    rw [Event.logs_logged, List.filter_cons_of_neg hnone, List.filter_nil]
  · split
    · rfl
    · split_ifs <;> rfl

namespace Gate

/-- A request that is turned away is logged once, and one that is let through is not. -/
theorem logs_settle (responder : Responder) (r : Request) {judge : TokenJudge} {now : Int}
    {d : Decision × List Event} (hd : logs P d.2 = judge.words P now (tokens d.2)) :
    ∃ turned : Option RejectionReason, (∀ reason, turned = some reason ↔ d.1 = .error reason)
      ∧ logs P (settle responder r d).2
        = judge.words P now (tokens (settle responder r d).2)
          ++ (turned.toList.map (responder.rejectionEntry · r.path)).filter P := by
  rw [tokens_settle]
  obtain ⟨decision, events⟩ := d
  cases decision with
  | ok context => exact ⟨none, by simp, by simpa [settle] using hd⟩
  | error reason =>
    refine ⟨some reason, by simp, ?_⟩
    show logs P (events ++ [responder.rejectionEntry reason r.path].map .logged) = _
    rw [Event.logs_append, Event.logs_logged, hd]
    rfl

/-- Gates that are none of admission do nothing on the way in but answer. -/
theorem events_enter {g : Gate} (hauth : g.stage ≠ .auth) (hgroup : g.stage ≠ .groupClaim) :
    (g.enter c r).2 = [] := by
  cases g with
  | auth => exact absurd rfl hauth
  | groupClaim => exact absurd rfl hgroup
  | recovery | compression | verboseLogging | statsd | prometheus | apm | cors | static | profiling
  | stripPrefix => rfl

end Gate

end Gates

/-! ### Chains -/

/-- What happens at gates while a request enters them. -/
def entering (c : Conditions) : List Gate → Request → List Event
  | [], _ => []
  | g :: gates, r =>
    match (g.enter c r).1 with
    | .forward r' => (g.enter c r).2 ++ entering c gates r'
    | .settled _ => (g.enter c r).2

section Chains

variable {c : Conditions} {g : Gate} {r : Request} {gates : List Gate}

theorem entering_of_forward {r' : Request} (h : (g.enter c r).1 = .forward r')
    (gates : List Gate) :
    entering c (g :: gates) r = (g.enter c r).2 ++ entering c gates r' := by
  rw [entering, h]

theorem entering_of_settled {outcome : Outcome} (h : (g.enter c r).1 = .settled outcome)
    (gates : List Gate) : entering c (g :: gates) r = (g.enter c r).2 := by
  rw [entering, h]

/-- Nothing happens on the way in where there are no gates of admission. -/
theorem entering_eq_nil
    (h : ∀ g ∈ gates, g.stage ≠ .auth ∧ g.stage ≠ .groupClaim) (r : Request) :
    entering c gates r = [] := by
  induction gates generalizing r with
  | nil => rfl
  | cons g gates ih =>
    obtain ⟨hauth, hgroup⟩ := h g List.mem_cons_self
    have hevents : (g.enter c r).2 = [] := Gate.events_enter hauth hgroup
    cases henter : (g.enter c r).1 with
    | settled outcome => rw [entering_of_settled henter, hevents]
    | forward r' =>
      rw [entering_of_forward henter, hevents, ih fun g' hg' => h g' (List.mem_cons_of_mem g hg')]
      rfl

/-- What happens in two chains on the way in: in the second, what happens to the request that
arrives there. -/
theorem entering_append (front back : List Gate) (r : Request) :
    entering c (front ++ back) r
      = entering c front r ++ ((arriving c front r).map (entering c back)).getD [] := by
  induction front generalizing r with
  | nil => rfl
  | cons g front ih =>
    rw [List.cons_append]
    cases henter : (g.enter c r).1 with
    | settled outcome =>
      rw [entering_of_settled henter, entering_of_settled henter, arriving_of_settled henter]
      exact (List.append_nil _).symm
    | forward r' =>
      rw [entering_of_forward henter, entering_of_forward henter, arriving_of_forward henter, ih,
        List.append_assoc]

/-- What a chain adds to events of some kind, it adds on the way in, when no gate adds any on the
way out. -/
theorem filterMap_serveThrough {β : Type} {kind : Event → Option β}
    (hleave : ∀ (g : Gate) (r : Request) (outcome : Outcome),
      (g.leave c r outcome).2.filterMap kind = []) (h : Handler) (gates : List Gate)
    (r : Request) :
    (serveThrough c h gates r).events.filterMap kind = (entering c gates r).filterMap kind := by
  induction gates generalizing r with
  | nil => rfl
  | cons g gates ih =>
    cases henter : (g.enter c r).1 with
    | settled outcome => rw [serveThrough_eq_of_settled henter, entering_of_settled henter]
    | forward r' =>
      rw [serveThrough_eq_of_forward henter, entering_of_forward henter, List.filterMap_append,
        List.filterMap_append, List.filterMap_append, ih, hleave, List.append_nil]

theorem logs_serveThrough {P : LogEntry → Bool}
    (hP : ∀ entry, P entry = true → entry.target ∈ LogEntry.admissionTargets) (h : Handler)
    (gates : List Gate) (r : Request) :
    logs P (serveThrough c h gates r).events = logs P (entering c gates r) :=
  filterMap_serveThrough (fun g _ outcome => logs_leave hP g outcome) h gates r

theorem tokens_serveThrough (h : Handler) (gates : List Gate) (r : Request) :
    tokens (serveThrough c h gates r).events = tokens (entering c gates r) :=
  filterMap_serveThrough (fun g r outcome => tokens_leave c r outcome g) h gates r

end Chains

end AuthGateway
