import AuthGateway.Proofs.Gate.Audit
import AuthGateway.Proofs.Pipeline.Keys
import AuthGateway.Proofs.Pipeline.Refusal

/-!
# The audit log

Of what a pipeline logs, the entries of two kinds are for audits: those about requests that are
turned away (`LogEntry.isRejection`), and those of the verifier about tokens that do not verify
(`LogEntry.isFailure`).

A gate of admission adds one entry of the first kind where it turns a request away, and leaves all
other words to the judge of tokens (`logs_enter`); so does a chain of such gates (`logs_entering`).
The other gates say nothing about admission, so this is what a pipeline logs about a request
(`Pipeline.logs_serve`), and a run by induction on the requests: its entries about rejections are
one by one those about the requests that the settings turn away (`RejectionLog`).  The verifier's
own entries are one by one those about the tokens that it fails on (`Verifier.FailureLog`).
-/

namespace AuthGateway

open Event (logs tokens)

/-! ### Entries -/

namespace LogEntry

/-- Whether an entry is about a request that is turned away. -/
def isRejection (entry : LogEntry) : Bool :=
  entry.target = "edge.auth.reject"

/-- Whether an entry is about a token that does not verify, for operators to see. -/
def isFailure (entry : LogEntry) : Bool :=
  entry.target = "edge.auth.jwt" && entry.level = .info

/-- Entries of either kind are about admission. -/
theorem mem_admissionTargets_of_isRejection (entry : LogEntry) (h : entry.isRejection = true) :
    entry.target ∈ admissionTargets := by
  simp_all [isRejection, admissionTargets]

theorem mem_admissionTargets_of_isFailure (entry : LogEntry) (h : entry.isFailure = true) :
    entry.target ∈ admissionTargets := by
  simp_all [isFailure, admissionTargets]

end LogEntry

/-- The entry about a request for a path that is turned away for a reason and answered with a
status. -/
def RejectionReason.entry (reason : RejectionReason) (path : String) (status : Nat) : LogEntry :=
  let text :=
    match reason with
    | .noToken => "no_token"
    | .invalidToken => "invalid_token"
    | .notInRequiredGroup => "not_in_required_group"
  { level := .info
    target := "edge.auth.reject"
    message := "Request rejected"
    fields := [("reason", .text text), ("path", .text path), ("status", .number status)] }

/-- This is the entry that is logged. -/
theorem Responder.rejectionEntry_eq (answer : Responder) (reason : RejectionReason)
    (path : String) : answer.rejectionEntry reason path = reason.entry path answer.status := by
  cases reason <;> rfl

/-- The entry about a token that does not verify. -/
def VerifyError.entry (e : VerifyError) : LogEntry :=
  { level := .info
    target := "edge.auth.jwt"
    message := "Token verification failed"
    fields := [("error", .text e.message)] }

namespace Verifier

variable {v : Verifier} {now : Int}

/-- What a verifier notes about the tokens that it is asked about: one entry for each that does not
verify although there is a key, if it is to note them. -/
inductive FailureLog (v : Verifier) (now : Int) : List String → List LogEntry → Prop where
  | nil : FailureLog v now [] []
  | noted {token : String} {e : VerifyError} {rest : List String} {entries : List LogEntry}
    (hkey : ∃ key, v.keys.key = .ok key) (hdebug : v.debug = true)
    (hfails : v.verify now token = .error e) (hrest : FailureLog v now rest entries) :
    FailureLog v now (token :: rest) (e.entry :: entries)
  | passedOver {token : String} {rest : List String} {entries : List LogEntry}
    (h : ¬ ((∃ key, v.keys.key = .ok key) ∧ v.debug = true ∧ ∃ e, v.verify now token = .error e))
    (hrest : FailureLog v now rest entries) : FailureLog v now (token :: rest) entries

/-- A verifier says nothing about requests that are turned away. -/
theorem words_isRejection (tokens : List String) :
    v.judge.words LogEntry.isRejection now tokens = [] := by
  refine List.flatMap_eq_nil_iff.2 fun token _ => List.filter_eq_nil_iff.2 fun entry hentry => ?_
  have htarget : entry.target = "edge.auth.jwt" := by
    simp only [judge, log] at hentry
    split at hentry
    · rw [List.mem_singleton.1 hentry]
    · split_ifs at hentry
      · rw [List.mem_singleton.1 hentry]
      · exact absurd hentry List.not_mem_nil
    · exact absurd hentry List.not_mem_nil
  simp [LogEntry.isRejection, htarget]

/-- What a verifier notes are all its words about tokens that do not verify. -/
theorem failureLog_words (tokens : List String) :
    v.FailureLog now tokens (v.judge.words LogEntry.isFailure now tokens) := by
  induction tokens with
  | nil => exact .nil
  | cons token rest ih =>
    show v.FailureLog now (token :: rest)
      ((v.log (v.verify now token)).filter LogEntry.isFailure ++ _)
    cases hkey : v.keys.key with
    | error cause =>
      rw [log_of_keyError hkey]
      exact .passedOver (by simp [hkey]) ih
    | ok key =>
      cases hverify : v.verify now token with
      | ok claims =>
        have hlog : v.log (.ok claims) = [] := by simp only [log, hkey]
        rw [hlog]
        exact .passedOver (by simp [hverify]) ih
      | error e =>
        have hlog : v.log (.error e) = if v.debug then [e.entry] else [] := by
          simp only [log, hkey]
          rfl
        rw [hlog]
        cases hdebug : v.debug with
        | true => exact .noted ⟨key, hkey⟩ hdebug hverify ih
        | false => exact .passedOver (by simp [hdebug]) ih

end Verifier

/-! ### Gates of admission -/

/-- Gates of admission that ask one judge and answer with one status. -/
inductive Gate.Screens (judge : TokenJudge) (status : Nat) : Gate → Prop where
  | token {g : TokenGate} (hjudge : g.judge = judge) (hstatus : g.responder.status = status) :
    Screens judge status (.auth g)
  | group {g : GroupGate} (hstatus : g.responder.status = status) :
    Screens judge status (.groupClaim g)

/-- The gates of admission that settings ask for are such gates. -/
theorem Startup.IsAdmission.screens {s : Settings} {judge : TokenJudge} {gates : List Gate}
    (h : IsAdmission s judge gates) {g : Gate} (hg : g ∈ gates) :
    g.Screens judge s.token.rejectionStyle.status := by
  have hstatus {answer : Responder} (hanswer : responder s.token = .ok answer) :
      answer.status = s.token.rejectionStyle.status := by
    rw [← (isRejection_of_responder hanswer).status]
    cases answer <;> rfl
  cases h with
  | off => exact absurd hg List.not_mem_nil
  | token _ _ hanswer =>
    obtain rfl := List.mem_singleton.1 hg
    exact .token rfl (hstatus hanswer)
  | group _ _ hanswer =>
    obtain rfl := List.mem_singleton.1 hg
    exact .group (hstatus hanswer)
  | both _ _ hanswer =>
    rcases List.mem_cons.1 hg with rfl | hg
    · exact .token rfl (hstatus hanswer)
    · obtain rfl := List.mem_singleton.1 hg
      exact .group (hstatus hanswer)

section Chains

variable {P : LogEntry → Bool} {judge : TokenJudge} {status : Nat} {c : Conditions} {r : Request}
  {gates : List Gate} {g : Gate}

/-- A gate of admission logs one entry about a request that it turns away, and leaves the other
words to its judge. -/
theorem logs_enter (hP : ∀ entry, P entry = true → entry.target ∈ LogEntry.admissionTargets)
    (hg : g.Screens judge status) : ∃ turned : Option RejectionReason,
      (∀ reason, turned = some reason ↔ ∃ answer, g.Refuses c r answer reason)
        ∧ logs P (g.enter c r).2 = judge.words P c.now (tokens (g.enter c r).2)
          ++ (turned.toList.map (·.entry r.path status)).filter P := by
  cases hg with
  | @token g hjudge hstatus =>
    obtain ⟨turned, hturned, hlogs⟩ :=
      Gate.logs_settle g.responder r (TokenGate.logs_decide (P := P) g c.now r)
    refine ⟨turned, fun reason => (hturned reason).trans refuses_auth_iff.symm, ?_⟩
    simp only [Responder.rejectionEntry_eq] at hlogs
    rw [← hjudge, ← hstatus]
    exact hlogs
  | @group g hstatus =>
    have hwords : logs P (g.decide r.context).2
        = judge.words P c.now (tokens (g.decide r.context).2) := by
      rw [GroupGate.logs_decide hP, GroupGate.tokens_decide]
      rfl
    obtain ⟨turned, hturned, hlogs⟩ := Gate.logs_settle g.responder r hwords
    refine ⟨turned, fun reason => (hturned reason).trans refuses_groupClaim_iff.symm, ?_⟩
    simp only [Responder.rejectionEntry_eq] at hlogs
    rw [← hstatus]
    exact hlogs

/-- A chain of gates of admission logs one entry about a request that is turned away along it. -/
theorem logs_entering (hP : ∀ entry, P entry = true → entry.target ∈ LogEntry.admissionTargets)
    (hgates : ∀ g ∈ gates, g.Screens judge status) (r : Request) :
    ∃ turned : Option RejectionReason,
      (∀ reason, turned = some reason ↔ RejectedAlong c gates r reason)
        ∧ logs P (entering c gates r) = judge.words P c.now (tokens (entering c gates r))
          ++ (turned.toList.map (·.entry r.path status)).filter P := by
  induction gates generalizing r with
  | nil => exact ⟨none, by simp [not_rejectedAlong_nil], rfl⟩
  | cons g gates ih =>
    have hg := hgates g List.mem_cons_self
    obtain ⟨turned, hturned, hlogs⟩ := logs_enter (c := c) (r := r) hP hg
    cases henter : (g.enter c r).1 with
    | settled outcome =>
      -- the gates behind have no part in it
      refine ⟨turned, fun reason => ?_, ?_⟩
      · rw [hturned, rejectedAlong_cons, henter]
        simp
      · rw [entering_of_settled henter]
        exact hlogs
    | forward r' =>
      -- who is let through is not turned away here
      obtain rfl : turned = none := by
        refine Option.eq_none_iff_forall_ne_some.2 fun reason h => ?_
        obtain ⟨answer, hrefuses⟩ := (hturned reason).1 h
        rw [enter_of_refuses hrefuses] at henter
        exact absurd henter (by simp)
      obtain ⟨turned', hturned', hlogs'⟩ :=
        ih (fun g' hg' => hgates g' (List.mem_cons_of_mem g hg')) r'
      -- and keeps its path
      obtain ⟨context, rfl⟩ := exists_context_of_enter (by cases hg <;> simp [Gate.stage]) henter
      refine ⟨turned', fun reason => ?_, ?_⟩
      · rw [hturned', rejectedAlong_cons, henter]
        simp [← hturned]
      · rw [entering_of_forward henter, Event.logs_append, hlogs, hlogs', Event.tokens_append,
          TokenJudge.words_append]
        simp [Request.path]

end Chains

/-! ### The settings -/

/-- Whether settings reject a request at a time for a reason, given a judge of tokens. -/
def Settings.Rejects (s : Settings) (judge : TokenJudge) (now : Int) (r : Request)
    (reason : RejectionReason) : Prop :=
  ¬ s.AnswersOutside r ∧ TurnsAway s judge now r reason

/-- Whether settings put a token of a request to the judge. -/
def Settings.Asks (s : Settings) (r : Request) (token : String) : Prop :=
  ¬ s.AnswersOutside r ∧ s.token.enabled = true ∧ s.isOpen r = false
    ∧ Extraction.ofHeaders r.headers s.token.cookieName = .found token

/-- Where nobody is asked behind it, the first gate puts all tokens to its judge. -/
theorem tokens_entering_cons {c : Conditions} {rest : List Gate}
    (hrest : ∀ r, tokens (entering c rest r) = []) (g : Gate) (r : Request) :
    tokens (entering c (g :: rest) r) = tokens (g.enter c r).2 := by
  cases henter : (g.enter c r).1 with
  | settled outcome => rw [entering_of_settled henter]
  | forward r' => rw [entering_of_forward henter, Event.tokens_append, hrest, List.append_nil]

/-- Where tokens are asked for, gates of admission put the token of a closed path to the judge. -/
theorem Startup.IsAdmission.tokens_entering {s : Settings} {judge : TokenJudge}
    {gates : List Gate} (h : IsAdmission s judge gates) (c : Conditions) (r : Request) :
    ∃ asked : Option String, (∀ token, asked = some token ↔ s.token.enabled = true
        ∧ s.isOpen r = false
        ∧ Extraction.ofHeaders r.headers s.token.cookieName = .found token)
      ∧ tokens (entering c gates r) = asked.toList := by
  have hnone (r' : Request) : tokens (entering c [] r') = [] := rfl
  have hgroup (g : GroupGate) (r' : Request) : tokens (entering c [.groupClaim g] r') = [] := by
    rw [tokens_entering_cons hnone, Gate.enter, Gate.tokens_settle, GroupGate.tokens_decide]
  cases h with
  | off henabled => exact ⟨none, by simp [henabled], rfl⟩
  | group henabled => exact ⟨none, by simp [henabled], hgroup _ r⟩
  | @token answer henabled =>
    rw [tokens_entering_cons hnone, Gate.enter, Gate.tokens_settle]
    simp only [henabled, true_and]
    exact TokenGate.tokens_decide (tokenGate s judge answer) c.now r
  | @both answer henabled =>
    -- the group gate, which stands behind it, asks nobody
    rw [tokens_entering_cons (hgroup _), Gate.enter, Gate.tokens_settle]
    simp only [henabled, true_and]
    exact TokenGate.tokens_decide (tokenGate s judge answer) c.now r

/-- The entries about rejections in a run: one for each request that is rejected, with the reason,
the path of the request and the status that was sent, in the order of the requests.  A judge may
have words of that kind itself. -/
inductive RejectionLog (s : Settings) (judge : TokenJudge) :
    List (Moment × Request) → List Reply → List LogEntry → Prop where
  | nil : RejectionLog s judge [] [] []
  | passed {m : Moment} {r : Request} {reply : Reply} {requests : List (Moment × Request)}
    {replies : List Reply} {entries : List LogEntry}
    (h : ∀ reason, ¬ s.Rejects judge m.now r reason)
    (hrest : RejectionLog s judge requests replies entries) :
    RejectionLog s judge ((m, r) :: requests) (reply :: replies)
      (judge.words LogEntry.isRejection m.now (tokens reply.events) ++ entries)
  | rejected {m : Moment} {r : Request} {reply : Reply} {reason : RejectionReason}
    {response : Response} {requests : List (Moment × Request)} {replies : List Reply}
    {entries : List LogEntry} (h : s.Rejects judge m.now r reason)
    (hreply : reply.outcome = .answered response)
    (hrest : RejectionLog s judge requests replies entries) :
    RejectionLog s judge ((m, r) :: requests) (reply :: replies)
      (judge.words LogEntry.isRejection m.now (tokens reply.events)
        ++ reason.entry r.uri.path response.status :: entries)

/-- What the log of a run tells about admission, given a judge of tokens. -/
structure Audited (s : Settings) (judge : TokenJudge) (requests : List (Moment × Request))
    (replies : List Reply) : Prop where
  /-- The entries about rejections are those about the requests that are rejected. -/
  rejections : RejectionLog s judge requests replies
    (logs LogEntry.isRejection (replies.flatMap Reply.events))
  /-- A request puts one token to the judge, or none. -/
  asked : List.Forall₂ (fun x reply => ∃ asked : Option String,
    (∀ token, asked = some token ↔ s.Asks x.2 token) ∧ tokens reply.events = asked.toList)
    requests replies
  /-- A verifier has no words about rejections, and notes the tokens that it fails on. -/
  failures (v : Verifier) (hv : judge = v.judge) :
    (∀ now asked, judge.words LogEntry.isRejection now asked = [])
      ∧ List.Forall₂ (fun x reply => v.FailureLog x.1.now (tokens reply.events)
        (logs LogEntry.isFailure reply.events)) requests replies

/-! ### The pipeline -/

namespace Pipeline

variable {s : Settings} {supplied : Collaborators} {around : Surroundings} {p : Pipeline}
  {c : Conditions} {r : Request}

/-- On the way in something happens at the gates of admission only. -/
theorem entering_parts {outer admission inner : List Gate}
    (houter : (Startup.gatesStep s supplied around
      (Stage.outer.filter (Stage.isEnabled s))).2 = .ok outer)
    (hinner : (Startup.gatesStep s supplied around
      (Stage.inner.filter (Stage.isEnabled s))).2 = .ok inner) (c : Conditions) (r : Request) :
    entering c (outer ++ (admission ++ inner)) r
      = ((arriving c outer r).map (entering c admission)).getD [] := by
  have hapart : (∀ st ∈ Stage.outer, st ≠ .auth ∧ st ≠ .groupClaim)
      ∧ ∀ st ∈ Stage.inner, st ≠ .auth ∧ st ≠ .groupClaim := by
    decide
  have houterNil (r : Request) : entering c outer r = [] :=
    entering_eq_nil (fun g hg => hapart.1 _ (Startup.stage_mem_of_enabled houter hg)) r
  have hinnerNil (r : Request) : entering c inner r = [] :=
    entering_eq_nil (fun g hg => hapart.2 _ (Startup.stage_mem_of_enabled hinner hg)) r
  have hinside : entering c (admission ++ inner) = entering c admission := by
    funext r'
    rw [entering_append]
    cases arriving c admission r' <;> simp [hinnerNil]
  rw [entering_append, houterNil, List.nil_append, hinside]

/-- A request that is not answered further out enters the gates of admission, and nothing else
happens on the way in. -/
theorem entering_gates (hbuild : (build s supplied around).2 = .ok p) : ∃ gates,
    Startup.IsAdmission s (Startup.judgeOf s.token supplied) gates ∧ ∀ c r,
      (s.AnswersOutside r → entering c p.gates r = [])
        ∧ (¬ s.AnswersOutside r → entering c p.gates r = entering c gates r) := by
  obtain ⟨outer, admission, inner, hp, houter, hadmission, hinner⟩ := gates_of_build hbuild
  refine ⟨admission, Startup.isAdmission_of_gatesStep hadmission, fun c r => ?_⟩
  rw [hp, entering_parts houter hinner]
  constructor
  · intro houtside
    cases harrives : arriving c outer r with
    | none => rfl
    | some r' => exact absurd houtside ((arriving_outer_iff houter).1 harrives).1
  · intro houtside
    rw [(arriving_outer_iff houter).2 ⟨houtside, rfl⟩]
    rfl

/-- Serving a client's request logs one entry about it if the settings reject it, and otherwise what
the judge has to say. -/
theorem logs_serve (hbuild : (build s supplied around).2 = .ok p) {P : LogEntry → Bool}
    (hP : ∀ entry, P entry = true → entry.target ∈ LogEntry.admissionTargets) (app : App)
    (c : Conditions) (hcontext : r.context = none) : ∃ turned : Option RejectionReason,
      (∀ reason, turned = some reason
        ↔ s.Rejects (Startup.judgeOf s.token supplied) c.now r reason)
        ∧ logs P (p.serve app c r).events
          = (Startup.judgeOf s.token supplied).words P c.now (tokens (p.serve app c r).events)
            ++ (turned.toList.map (·.entry r.path s.token.rejectionStyle.status)).filter P := by
  obtain ⟨gates, hgates, hentering⟩ := entering_gates hbuild
  have hserve : (p.serve app c r).events
      = (serveThrough c ((p.destination app r).handler r.method) p.gates r).events := rfl
  rw [hserve, logs_serveThrough hP, tokens_serveThrough]
  by_cases houtside : s.AnswersOutside r
  · rw [(hentering c r).1 houtside]
    exact ⟨none, by simp [Settings.Rejects, houtside], rfl⟩
  · rw [(hentering c r).2 houtside]
    obtain ⟨turned, hturned, hlogs⟩ := logs_entering (c := c) hP (fun g hg => hgates.screens hg) r
    refine ⟨turned, fun reason => ?_, hlogs⟩
    rw [hturned, hgates.rejectedAlong_iff hcontext, Settings.Rejects, and_iff_right houtside]

/-- Serving a request puts one token to the judge if the settings ask for it, and otherwise none. -/
theorem tokens_serve (hbuild : (build s supplied around).2 = .ok p) (app : App) (c : Conditions)
    (r : Request) : ∃ asked : Option String, (∀ token, asked = some token ↔ s.Asks r token)
      ∧ tokens (p.serve app c r).events = asked.toList := by
  obtain ⟨gates, hgates, hentering⟩ := entering_gates hbuild
  have hserve : (p.serve app c r).events
      = (serveThrough c ((p.destination app r).handler r.method) p.gates r).events := rfl
  rw [hserve, tokens_serveThrough]
  by_cases houtside : s.AnswersOutside r
  · rw [(hentering c r).1 houtside]
    exact ⟨none, by simp [Settings.Asks, houtside], rfl⟩
  · rw [(hentering c r).2 houtside]
    obtain ⟨asked, hasked, htokens⟩ := hgates.tokens_entering c r
    refine ⟨asked, fun token => ?_, htokens⟩
    rw [hasked, Settings.Asks, and_iff_right houtside]

/-- A client's request that the settings reject is answered with the status that they ask for. -/
theorem status_of_rejects (hbuild : (build s supplied around).2 = .ok p) (app : App)
    (hcontext : r.context = none) {reason : RejectionReason}
    (h : s.Rejects (Startup.judgeOf s.token supplied) c.now r reason) :
    ∃ response, (p.serve app c r).outcome = .answered response
      ∧ response.status = s.token.rejectionStyle.status := by
  obtain ⟨answer, hanswer, houtcome⟩ :=
    outcome_of_rejects hbuild ((rejects_iff hbuild hcontext).2 h) app
  refine ⟨_, houtcome, ?_⟩
  rw [Destination.status_finish, Settings.dressed_eq.1]
  exact (Startup.isRejection_of_responder hanswer).status

/-- The entries about rejections in a run are those about the requests that the settings reject. -/
theorem rejectionLog_run (hbuild : (build s supplied around).2 = .ok p) (app : App)
    (start : Recorder) {requests : List (Moment × Request)}
    (hclients : ∀ x ∈ requests, x.2.context = none) :
    RejectionLog s (Startup.judgeOf s.token supplied) requests (p.run app start requests).1
      (logs LogEntry.isRejection ((p.run app start requests).1.flatMap Reply.events)) := by
  induction requests generalizing start with
  | nil => exact .nil
  | cons x rest ih =>
    obtain ⟨m, r⟩ := x
    have hcontext : r.context = none := hclients (m, r) List.mem_cons_self
    have hrest := ih (start.take (p.serve app ⟨m.now, m.elapsed, start⟩ r).events)
      fun x hx => hclients x (List.mem_cons_of_mem _ hx)
    obtain ⟨turned, hturned, hlogs⟩ := logs_serve hbuild
      LogEntry.mem_admissionTargets_of_isRejection app ⟨m.now, m.elapsed, start⟩ hcontext
    rw [run, List.flatMap_cons, Event.logs_append, hlogs]
    cases turned with
    | none =>
      rw [show ((none : Option RejectionReason).toList.map _).filter LogEntry.isRejection = []
        from rfl, List.append_nil]
      exact .passed (fun reason => (hturned reason).not.1 (by simp)) hrest
    | some reason =>
      have hrejects := (hturned reason).1 rfl
      obtain ⟨response, houtcome, hstatus⟩ := status_of_rejects hbuild app hcontext
        (c := ⟨m.now, m.elapsed, start⟩) hrejects
      rw [← hstatus, List.append_assoc]
      exact .rejected hrejects houtcome hrest

/-- What holds of every request and its reply holds along a run. -/
theorem forall₂_run {R : Moment × Request → Reply → Prop} {requests : List (Moment × Request)}
    {app : App} (h : ∀ x ∈ requests, ∀ recorder,
      R x (p.serve app ⟨x.1.now, x.1.elapsed, recorder⟩ x.2)) (start : Recorder) :
    List.Forall₂ R requests (p.run app start requests).1 := by
  induction requests generalizing start with
  | nil => exact .nil
  | cons x rest ih =>
    refine .cons (h x List.mem_cons_self start) ?_
    exact ih (fun x' hx' => h x' (List.mem_cons_of_mem x hx')) _

/-- About a client's request, the verifier notes the tokens that it fails on. -/
theorem failureLog_serve (hbuild : (build s supplied around).2 = .ok p) {v : Verifier}
    (hv : Startup.judgeOf s.token supplied = v.judge) (app : App) (c : Conditions)
    (hcontext : r.context = none) :
    v.FailureLog c.now (tokens (p.serve app c r).events)
      (logs LogEntry.isFailure (p.serve app c r).events) := by
  obtain ⟨turned, -, hlogs⟩ := logs_serve hbuild LogEntry.mem_admissionTargets_of_isFailure app c
    hcontext
  have hnone : (turned.toList.map (·.entry r.path s.token.rejectionStyle.status)).filter
      LogEntry.isFailure = [] := by
    cases turned <;> rfl
  rw [hlogs, hnone, List.append_nil, hv]
  exact v.failureLog_words _

/-- The log of a run shows what its pipeline decides about clients.  Requests are rejected by gates
of admission exactly where the settings reject them, for the one reason that there is, and the
entries about rejections are those about these requests.  Where the judge is a verifier, it has no
words about rejections itself, and notes the tokens that it fails on; where no judge is supplied, it
is the verifier over the configured key, which notes them if the settings ask for it. -/
theorem run_audited {s : Settings} {supplied : Collaborators} {around : Surroundings}
    {p : Pipeline} (hbuild : (build s supplied around).2 = .ok p) (app : App) (start : Recorder)
    {requests : List (Moment × Request)} (hclients : ∀ x ∈ requests, x.2.context = none) :
    (∀ x ∈ requests, ∀ recorder reason,
        p.Rejects ⟨x.1.now, x.1.elapsed, recorder⟩ x.2 reason
          ↔ s.Rejects (Startup.judgeOf s.token supplied) x.1.now x.2 reason)
      ∧ (∀ now r reason reason', s.Rejects (Startup.judgeOf s.token supplied) now r reason →
        s.Rejects (Startup.judgeOf s.token supplied) now r reason' → reason = reason')
      ∧ Audited s (Startup.judgeOf s.token supplied) requests (p.run app start requests).1
      ∧ (supplied.judge = none → Startup.judgeOf s.token supplied
        = (Verifier.ofSecret s.token.signingMethod s.token.secret s.token.clockSkew
          s.token.debug).judge) := by
  refine ⟨fun x hx recorder reason => rejects_iff hbuild (hclients x hx),
    fun now r reason reason' h h' => h.2.unique h'.2, ?_, ?_⟩
  · constructor
    · exact rejectionLog_run hbuild app start hclients
    · exact forall₂_run (fun x _ recorder => tokens_serve hbuild app _ x.2) start
    · intro v hv
      refine ⟨fun now asked => hv ▸ v.words_isRejection asked, ?_⟩
      exact forall₂_run (fun x hx recorder =>
        failureLog_serve hbuild hv app ⟨x.1.now, x.1.elapsed, recorder⟩ (hclients x hx)) start
  · intro hnone
    rw [Startup.judgeOf, hnone, Option.getD_none]

/-- One after the other: a caller with a token that is none, the health check, and a caller without
a token. -/
def auditedRequests : List (Moment × Request) :=
  [(⟨1000, ⟨0, 0⟩⟩, scribbledRequest), (⟨1001, ⟨0, 0⟩⟩, healthRequest),
    (⟨1002, ⟨0, 0⟩⟩, callerRequest "GET" [])]

/-- Two of these callers are turned away, and the log tells of these two, and of the one token. -/
theorem run_audited_auditedRequests :
    ∃ s p, Settings.load (rsaVariables smallKey) = .ok s
      ∧ (build s .none bareSurroundings).2 = .ok p
      ∧ (∀ x ∈ auditedRequests, x.2.context = none)
      ∧ Audited s (Startup.judgeOf s.token .none) auditedRequests
        (p.run Service.app p.recorder auditedRequests).1
      ∧ RejectionLog s (Startup.judgeOf s.token .none) auditedRequests
        (p.run Service.app p.recorder auditedRequests).1
        [RejectionReason.invalidToken.entry "/api/v1/me" 307,
          RejectionReason.noToken.entry "/api/v1/me" 307]
      ∧ logs LogEntry.isFailure
          ((p.run Service.app p.recorder auditedRequests).1.flatMap Reply.events)
        = [VerifyError.malformed.entry] := by
  obtain ⟨s, p, hs, hp, hlogs, hfailures⟩ : ∃ s p, Settings.load (rsaVariables smallKey) = .ok s
      ∧ (build s .none bareSurroundings).2 = .ok p
      ∧ logs LogEntry.isRejection
          ((p.run Service.app p.recorder auditedRequests).1.flatMap Reply.events)
        = [RejectionReason.invalidToken.entry "/api/v1/me" 307,
          RejectionReason.noToken.entry "/api/v1/me" 307]
      ∧ logs LogEntry.isFailure
          ((p.run Service.app p.recorder auditedRequests).1.flatMap Reply.events)
        = [VerifyError.malformed.entry] :=
    ⟨_, _, rfl, rfl, rfl, rfl⟩
  have hclients : ∀ x ∈ auditedRequests, x.2.context = none := by
    simp [auditedRequests, scribbledRequest, healthRequest, callerRequest]
  have haudited := (run_audited hp Service.app p.recorder hclients).2.2.1
  refine ⟨s, p, hs, hp, hclients, haudited, ?_, hfailures⟩
  rw [← hlogs]
  exact haudited.rejections

end Pipeline

end AuthGateway
