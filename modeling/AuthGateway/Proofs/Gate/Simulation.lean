import AuthGateway.Proofs.Gate.Telemetry

/-!
# Chains that do the same

Two gates are alike for requests in a relation when both let them through and keep them in the
relation, or both end them with the same outcome, and when both do the same to what comes back
(`Gate.Alike`).  A gate is silent when it neither holds up a request nor changes what comes back
(`Gate.IsSilent`).  Chains are alike when their gates are, one by one, apart from silent gates on
either side (`Gate.ChainsAlike`).

Chains that are alike give the same outcome, and put the same tokens to the judge, if what lies
behind them does (`Gate.ChainsAlike.serveThrough_append`); and the requests that arrive behind them
are in the relation (`Gate.ChainsAlike.arriving`).  Both are by induction on the two chains.

What a gate does depends on little besides the request.  Apart from scrapes that is the time
(`Gate.enter_congr`), so that a gate is alike to itself at the same time (`Gate.alike_self`), and
chains that answer no scrapes do not depend on the metrics (`Gate.serveThrough_append_recorder`).
-/

namespace AuthGateway

/-! ### Tokens that are put to the judge -/

namespace Event

/-- The token in an event that puts one to the judge. -/
def token? : Event → Option String
  | .checked token => some token
  | _ => none

/-- The tokens that are put to the judge. -/
def tokens (events : List Event) : List String :=
  events.filterMap token?

@[simp] theorem tokens_append (front back : List Event) :
    tokens (front ++ back) = tokens front ++ tokens back :=
  List.filterMap_append

@[simp] theorem tokens_cons_checked (token : String) (events : List Event) :
    tokens (.checked token :: events) = token :: tokens events :=
  rfl

@[simp] theorem tokens_logged (entries : List LogEntry) :
    tokens (entries.map .logged) = [] := by
  unfold tokens
  rw [List.filterMap_map]
  exact List.filterMap_eq_nil_iff.2 fun _ _ => rfl

theorem tokens_sent (datagrams : List String) : tokens (datagrams.map .sent) = [] := by
  unfold tokens
  rw [List.filterMap_map]
  exact List.filterMap_eq_nil_iff.2 fun _ _ => rfl

end Event

open Event (tokens)

/-- No gate puts a token to the judge on the way out. -/
theorem tokens_leave (c : Conditions) (r : Request) (outcome : Outcome) (g : Gate) :
    tokens (g.leave c r outcome).2 = [] := by
  cases g with
  | recovery =>
    cases outcome with
    | answered response => rfl
    | panicked payload => exact Event.tokens_logged _
  | statsd client =>
    cases outcome with
    | answered response =>
      simp only [Gate.leave, Outcome.status?, Option.map_some, Option.getD_some]
      unfold Gate.measurements
      exact Event.tokens_sent _
    | panicked payload => rfl
  | prometheus path latency => cases outcome <;> rfl
  | compression | verboseLogging | apm | cors | auth | groupClaim | static | profiling
  | stripPrefix => rfl

/-- Whether two replies are the same for the client and for the judge of tokens. -/
structure Reply.Alike (x y : Reply) : Prop where
  outcome : x.outcome = y.outcome
  tokens : Event.tokens x.events = Event.tokens y.events

/-! ### Gates -/

/-- Whether two passages lead on with requests in a relation, or end with the same outcome. -/
inductive Passage.Alike (R : Request → Request → Prop) : Passage → Passage → Prop where
  | forward {r₁ r₂ : Request} (h : R r₁ r₂) : Alike R (.forward r₁) (.forward r₂)
  | settled (outcome : Outcome) : Alike R (.settled outcome) (.settled outcome)

namespace Gate

variable {R : Request → Request → Prop} {c₁ c₂ : Conditions} {r₁ r₂ : Request}

/-- Two gates, each under its own conditions, that do the same to requests in a relation. -/
structure Alike (R : Request → Request → Prop) (c₁ c₂ : Conditions) (g₁ g₂ : Gate) : Prop where
  enter {r₁ r₂ : Request} (h : R r₁ r₂) : Passage.Alike R (g₁.enter c₁ r₁).1 (g₂.enter c₂ r₂).1
  tokens {r₁ r₂ : Request} (h : R r₁ r₂) :
    Event.tokens (g₁.enter c₁ r₁).2 = Event.tokens (g₂.enter c₂ r₂).2
  leave {r₁ r₂ : Request} (h : R r₁ r₂) (outcome : Outcome) :
    (g₁.leave c₁ r₁ outcome).1 = (g₂.leave c₂ r₂ outcome).1

/-- A gate that lets requests of some kind through as they are and keeps what becomes of them. -/
structure IsSilent (P : Request → Prop) (c : Conditions) (g : Gate) : Prop where
  enter {r : Request} (h : P r) : g.enter c r = (.forward r, [])
  leave (r : Request) (outcome : Outcome) : (g.leave c r outcome).1 = outcome

/-! ### Chains -/

/-- Two chains that do the same to requests in a relation: gate by gate, apart from silent ones. -/
inductive ChainsAlike (R : Request → Request → Prop) (c₁ c₂ : Conditions) :
    List Gate → List Gate → Prop where
  | nil : ChainsAlike R c₁ c₂ [] []
  | both {g₁ g₂ : Gate} {gates₁ gates₂ : List Gate} (hgate : Alike R c₁ c₂ g₁ g₂)
    (h : ChainsAlike R c₁ c₂ gates₁ gates₂) : ChainsAlike R c₁ c₂ (g₁ :: gates₁) (g₂ :: gates₂)
  | left {g : Gate} {gates₁ gates₂ : List Gate} (hgate : IsSilent (fun r => ∃ r', R r r') c₁ g)
    (h : ChainsAlike R c₁ c₂ gates₁ gates₂) : ChainsAlike R c₁ c₂ (g :: gates₁) gates₂
  | right {g : Gate} {gates₁ gates₂ : List Gate} (hgate : IsSilent (fun r => ∃ r', R r' r) c₂ g)
    (h : ChainsAlike R c₁ c₂ gates₁ gates₂) : ChainsAlike R c₁ c₂ gates₁ (g :: gates₂)

/-- In front of a chain, a silent gate makes no difference to the client or the judge. -/
theorem IsSilent.serveThrough_cons {P : Request → Prop} {c : Conditions} {g : Gate}
    (hg : IsSilent P c g) {r : Request} (hr : P r) (h : Handler) (gates : List Gate) :
    Reply.Alike (serveThrough c h (g :: gates) r) (serveThrough c h gates r) := by
  have henter : (g.enter c r).1 = .forward r := by rw [hg.enter hr]
  constructor
  · rw [serveThrough_of_forward henter, hg.leave]
  · rw [serveThrough_eq_of_forward henter, hg.enter hr, Event.tokens_append, tokens_leave,
      List.append_nil, List.nil_append]

/-- Behind gates that are alike, replies that are alike stay alike. -/
theorem Alike.serveThrough_cons {g₁ g₂ : Gate} (hg : Alike R c₁ c₂ g₁ g₂) (hr : R r₁ r₂)
    {h₁ h₂ : Handler} {gates₁ gates₂ : List Gate}
    (hback : ∀ {r₁ r₂}, R r₁ r₂ →
      Reply.Alike (serveThrough c₁ h₁ gates₁ r₁) (serveThrough c₂ h₂ gates₂ r₂)) :
    Reply.Alike (serveThrough c₁ h₁ (g₁ :: gates₁) r₁)
      (serveThrough c₂ h₂ (g₂ :: gates₂) r₂) := by
  have htokens := hg.tokens hr
  have hpassages := hg.enter hr
  generalize henter₁ : (g₁.enter c₁ r₁).1 = passage₁ at hpassages
  generalize henter₂ : (g₂.enter c₂ r₂).1 = passage₂ at hpassages
  cases hpassages with
  | forward hr' =>
    have hinner := hback hr'
    constructor
    · rw [serveThrough_of_forward henter₁, serveThrough_of_forward henter₂, hinner.outcome,
        hg.leave hr]
    · rw [serveThrough_eq_of_forward henter₁, serveThrough_eq_of_forward henter₂]
      simp only [Event.tokens_append, tokens_leave, htokens, hinner.tokens]
  | settled outcome =>
    rw [serveThrough_eq_of_settled henter₁, serveThrough_eq_of_settled henter₂]
    exact ⟨rfl, htokens⟩

/-- Chains that are alike keep replies alike. -/
theorem ChainsAlike.serveThrough_append {front₁ front₂ : List Gate}
    (hfront : ChainsAlike R c₁ c₂ front₁ front₂) (hr : R r₁ r₂) {h₁ h₂ : Handler}
    {back₁ back₂ : List Gate}
    (hback : ∀ {r₁ r₂}, R r₁ r₂ →
      Reply.Alike (serveThrough c₁ h₁ back₁ r₁) (serveThrough c₂ h₂ back₂ r₂)) :
    Reply.Alike (serveThrough c₁ h₁ (front₁ ++ back₁) r₁)
      (serveThrough c₂ h₂ (front₂ ++ back₂) r₂) := by
  induction hfront generalizing r₁ r₂ with
  | nil => exact hback hr
  | both hgate _ ih =>
    rw [List.cons_append, List.cons_append]
    exact hgate.serveThrough_cons hr fun hr' => ih hr'
  | @left g gates₁ gates₂ hgate _ ih =>
    have houter := hgate.serveThrough_cons ⟨r₂, hr⟩ h₁ (gates₁ ++ back₁)
    have hinner := ih hr
    rw [List.cons_append]
    exact ⟨houter.outcome.trans hinner.outcome, houter.tokens.trans hinner.tokens⟩
  | @right g gates₁ gates₂ hgate _ ih =>
    have houter := hgate.serveThrough_cons ⟨r₁, hr⟩ h₂ (gates₂ ++ back₂)
    have hinner := ih hr
    rw [List.cons_append]
    exact ⟨hinner.outcome.trans houter.outcome.symm, hinner.tokens.trans houter.tokens.symm⟩

/-- Chains that are alike give replies that are alike when their handlers do the same. -/
theorem ChainsAlike.serveThrough {gates₁ gates₂ : List Gate}
    (hgates : ChainsAlike R c₁ c₂ gates₁ gates₂) (hr : R r₁ r₂) {h₁ h₂ : Handler}
    (hhandler : ∀ {r₁ r₂}, R r₁ r₂ → h₁ r₁ = h₂ r₂) :
    Reply.Alike (serveThrough c₁ h₁ gates₁ r₁) (serveThrough c₂ h₂ gates₂ r₂) := by
  rw [← List.append_nil gates₁, ← List.append_nil gates₂]
  exact hgates.serveThrough_append hr fun hr' => ⟨hhandler hr', rfl⟩

/-- What arrives behind chains that are alike is in the relation. -/
theorem ChainsAlike.arriving {front₁ front₂ : List Gate}
    (hfront : ChainsAlike R c₁ c₂ front₁ front₂) (hr : R r₁ r₂) :
    Option.Rel R (arriving c₁ front₁ r₁) (arriving c₂ front₂ r₂) := by
  induction hfront generalizing r₁ r₂ with
  | nil => exact .some hr
  | @both g₁ g₂ gates₁ gates₂ hgate _ ih =>
    have hpassages := hgate.enter hr
    generalize henter₁ : (g₁.enter c₁ r₁).1 = passage₁ at hpassages
    generalize henter₂ : (g₂.enter c₂ r₂).1 = passage₂ at hpassages
    cases hpassages with
    | forward hr' =>
      rw [arriving_of_forward henter₁, arriving_of_forward henter₂]
      exact ih hr'
    | settled outcome =>
      rw [arriving_of_settled henter₁, arriving_of_settled henter₂]
      exact .none
  | left hgate _ ih =>
    rw [arriving_of_forward (congrArg Prod.fst (hgate.enter ⟨r₂, hr⟩))]
    exact ih hr
  | right hgate _ ih =>
    rw [arriving_of_forward (congrArg Prod.fst (hgate.enter ⟨r₁, hr⟩))]
    exact ih hr

/-! ### Decisions -/

/-- The same decision is carried out in the same way on requests that stay in the relation. -/
theorem settle_alike {responder : Responder} {d₁ d₂ : Decision × List Event} (hd : d₁.1 = d₂.1)
    (hr : ∀ context, R (r₁.withContext context) (r₂.withContext context)) :
    Passage.Alike R (settle responder r₁ d₁).1 (settle responder r₂ d₂).1 := by
  obtain ⟨decision₁, events₁⟩ := d₁
  obtain ⟨decision₂, events₂⟩ := d₂
  obtain rfl : decision₁ = decision₂ := hd
  cases decision₁ with
  | ok context => exact .forward (hr context)
  | error reason => exact .settled _

/-- Carrying out a decision puts no token to the judge. -/
theorem tokens_settle (responder : Responder) (r : Request) (d : Decision × List Event) :
    Event.tokens (settle responder r d).2 = Event.tokens d.2 := by
  obtain ⟨entries, hevents, -⟩ := events_settle responder r d
  rw [hevents, Event.tokens_append, Event.tokens_logged, List.append_nil]

end Gate

/-- Gates that ask for a token do the same to requests with the same fields, whatever is logged,
when they open the same paths and their judges give the same verdicts. -/
theorem TokenGate.decide_congr {g₁ g₂ : TokenGate} {now : Int} {r₁ r₂ : Request}
    (hopen : g₁.isOpen r₁.path = g₂.isOpen r₂.path) (hheaders : r₁.headers = r₂.headers)
    (hverdict : g₁.judge.verdict = g₂.judge.verdict) (hcookie : g₁.cookieName = g₂.cookieName)
    (hproperty : g₁.userProperty = g₂.userProperty) :
    (g₁.decide now r₁).1 = (g₂.decide now r₂).1
      ∧ tokens (g₁.decide now r₁).2 = tokens (g₂.decide now r₂).2 := by
  have htoken (token : String) : g₁.decideToken now token = g₂.decideToken now token := by
    unfold decideToken
    rw [hverdict, hproperty]
  unfold decide
  rw [hopen, hheaders, hcookie, hproperty]
  split_ifs
  · exact ⟨rfl, rfl⟩
  · cases Extraction.ofHeaders r₂.headers g₂.cookieName with
    | found token =>
      dsimp only
      rw [htoken, Event.tokens_cons_checked, Event.tokens_cons_checked, Event.tokens_logged,
        Event.tokens_logged]
      exact ⟨rfl, rfl⟩
    | malformed | absent => exact ⟨rfl, rfl⟩

/-! ### Gates at the same time -/

namespace Gate

variable {c₁ c₂ : Conditions} {g : Gate} {r : Request}

/-- Apart from scrapes, what a gate does with a request depends on nothing but the time. -/
theorem enter_congr (hnow : c₁.now = c₂.now) (hg : g.stage ≠ .prometheus) :
    g.enter c₁ r = g.enter c₂ r := by
  cases g with
  | prometheus => exact absurd rfl hg
  | auth g =>
    unfold enter
    rw [hnow]
  | profiling p =>
    unfold enter
    rw [hnow]
  | recovery | compression | verboseLogging | statsd | apm | cors | groupClaim | static
  | stripPrefix => rfl

/-- The gate that asks for a token carries out its decision. -/
theorem enter_auth (c : Conditions) (r : Request) (g : TokenGate) :
    (Gate.auth g).enter c r = settle g.responder r (g.decide c.now r) :=
  rfl

/-- What a gate makes of an outcome depends on nothing but the request. -/
theorem leave_congr (outcome : Outcome) :
    (g.leave c₁ r outcome).1 = (g.leave c₂ r outcome).1 := by
  cases g <;> rfl

/-- What a gate makes of an outcome does not depend on the metrics. -/
theorem leave_recorder (c : Conditions) (recorder : Recorder) (r : Request) (outcome : Outcome)
    (g : Gate) : g.leave { c with recorder } r outcome = g.leave c r outcome := by
  cases g <;> rfl

/-- Gates that answer no scrapes do not depend on the metrics, if what lies behind them does not. -/
theorem serveThrough_append_recorder {c : Conditions} {recorder : Recorder} {h : Handler}
    {front back : List Gate} (hfront : ∀ g ∈ front, g.stage ≠ .prometheus)
    (hback : ∀ r', arriving c front r = some r' →
      serveThrough { c with recorder } h back r' = serveThrough c h back r') :
    serveThrough { c with recorder } h (front ++ back) r = serveThrough c h (front ++ back) r := by
  induction front generalizing r with
  | nil => exact hback r rfl
  | cons g front ih =>
    have henter : g.enter { c with recorder } r = g.enter c r :=
      enter_congr rfl (hfront g List.mem_cons_self)
    rw [List.cons_append, serveThrough, serveThrough, henter]
    cases hpassage : g.enter c r with
    | mk passage events =>
      cases passage with
      | settled outcome => rfl
      | forward r' =>
        have hfst : (g.enter c r).1 = .forward r' := by rw [hpassage]
        have hinner := ih (fun g' hg' => hfront g' (List.mem_cons_of_mem g hg')) fun r'' hr'' =>
          hback r'' (by rw [arriving_of_forward hfst]; exact hr'')
        simp only [hinner, leave_recorder]

/-- Requests that are the same, with a path of some kind. -/
def SameAt (P : String → Prop) (r₁ r₂ : Request) : Prop :=
  r₁ = r₂ ∧ P r₁.path

/-- A gate does the same to the same request at the same time.  It keeps what is known about the
path, unless it takes off the web prefix. -/
theorem alike_self {P : String → Prop} (hnow : c₁.now = c₂.now) (hg : g.stage ≠ .prometheus)
    (hP : g.stage = .stripPrefix → ∀ path, P path) : Alike (SameAt P) c₁ c₂ g g := by
  constructor
  · rintro r _ ⟨rfl, hr⟩
    rw [enter_congr hnow hg]
    cases henter : (g.enter c₂ r).1 with
    | settled outcome => exact .settled outcome
    | forward r' =>
      refine .forward ⟨rfl, ?_⟩
      by_cases hstrip : g.stage = .stripPrefix
      · exact hP hstrip r'.path
      · obtain ⟨context, rfl⟩ := exists_context_of_enter hstrip henter
        exact hr
  · rintro r _ ⟨rfl, -⟩
    rw [enter_congr hnow hg]
  · rintro r _ ⟨rfl, -⟩ outcome
    exact leave_congr outcome

/-- Gates that ask for a token do the same when they only differ in their judges, and these give the
same verdicts. -/
theorem alike_auth {P : String → Prop} (hnow : c₁.now = c₂.now) {g₁ g₂ : TokenGate}
    (hgate : g₁ = { g₂ with judge := g₁.judge }) (hverdict : g₁.judge.verdict = g₂.judge.verdict) :
    Alike (SameAt P) c₁ c₂ (.auth g₁) (.auth g₂) := by
  have hopen (path : String) : g₁.isOpen path = g₂.isOpen path := by
    rw [hgate]
    rfl
  have hcookie : g₁.cookieName = g₂.cookieName := by rw [hgate]
  have hproperty : g₁.userProperty = g₂.userProperty := by rw [hgate]
  have hresponder : g₁.responder = g₂.responder := by rw [hgate]
  constructor
  · rintro r _ ⟨rfl, hr⟩
    rw [enter_auth, enter_auth, hnow, hresponder]
    exact settle_alike (TokenGate.decide_congr (hopen _) rfl hverdict hcookie hproperty).1
      fun _ => ⟨rfl, hr⟩
  · rintro r _ ⟨rfl, -⟩
    rw [enter_auth, enter_auth, hnow, tokens_settle, tokens_settle]
    exact (TokenGate.decide_congr (hopen _) rfl hverdict hcookie hproperty).2
  · rintro r _ ⟨rfl, -⟩ outcome
    rfl

end Gate

end AuthGateway
