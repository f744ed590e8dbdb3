import AuthGateway.Proofs.Json.RoundTrip
import AuthGateway.Proofs.Pipeline.Rejection
import AuthGateway.Proofs.Settings.Load

/-!
# What callers are told about themselves

The service tells a caller whether a token was needed and verified, and the verified claims under a
name of their own.  The name is none of the two that the service uses itself
(`Settings.tokensChecked_of_load`), and the claims stand below it, so no claim can take the place of
what was decided (`Service.tells_caller`).  What arrives at the application carries the decision
(`Pipeline.context_of_arriving`), and what the application answers is delivered
(`Pipeline.outcome_of_arriving`).  Together this is `Pipeline.me_tells`.
-/

namespace AuthGateway

/-! ### The members -/

/-- What a caller is told who was admitted in some way: the two flags, and the claims under their
name. -/
inductive Service.Tells (name : String) : Admission → Json.Members → Prop where
  | whitelisted {members : Json.Members}
    (h : members.Perm [("whitelisted", .bool true), ("authenticated", .bool false),
      (name, .null)]) : Tells name .whitelisted members
  | authenticated {claims : Claims} {members : Json.Members}
    (h : members.Perm [("whitelisted", .bool false), ("authenticated", .bool true),
      (name, .object claims.members)]) : Tells name (.authenticated claims) members

namespace Service

/-- A caller about whom nobody has decided is told of no decision. -/
theorem caller_none : ∃ members : Json.Members, caller none = .object members
    ∧ members.IsSorted
    ∧ members.Perm [("whitelisted", .bool false), ("authenticated", .bool false)] :=
  ⟨_, rfl, Json.Members.isSorted_ofList _, Json.Members.perm_ofList (by decide)⟩

/-- A caller is told how it was admitted, whatever its claims are, under a name that the service
does not use itself. -/
theorem tells_caller {name : String} (hname : name ∉ Settings.reservedProperties)
    (a : Admission) : ∃ members : Json.Members, caller (some ⟨name, a⟩) = .object members
      ∧ members.IsSorted ∧ Tells name a members := by
  have hdistinct (v w u : Json) : List.Pairwise (fun a b : String × Json => a.1 ≠ b.1)
      [("whitelisted", v), ("authenticated", w), (name, u)] := by
    simp only [Settings.reservedProperties, List.mem_cons, List.not_mem_nil, or_false,
      not_or] at hname
    simp [Ne.symm hname.1, Ne.symm hname.2]
  cases a with
  | whitelisted =>
    exact ⟨_, rfl, Json.Members.isSorted_ofList _,
      .whitelisted (Json.Members.perm_ofList (hdistinct _ _ _))⟩
  | authenticated claims =>
    exact ⟨_, rfl, Json.Members.isSorted_ofList _,
      .authenticated (Json.Members.perm_ofList (hdistinct _ _ _))⟩

/-- One of the two flags is set. -/
theorem Tells.flags {name : String} {a : Admission} {members : Json.Members}
    (h : Tells name a members) :
    ¬ (("whitelisted", .bool false) ∈ members ∧ ("authenticated", .bool false) ∈ members)
      ∧ ¬ (("whitelisted", .bool true) ∈ members ∧ ("authenticated", .bool true) ∈ members) := by
  cases h with
  | whitelisted hmembers | authenticated hmembers =>
    simp only [hmembers.mem_iff]
    simp

end Service

/-! ### The pipeline -/

namespace Pipeline

variable {s : Settings} {supplied : Collaborators} {around : Surroundings} {p : Pipeline}
  {c : Conditions} {r seen : Request}

/-- What the handler answers to a request that arrives at it is delivered, dressed. -/
theorem outcome_of_arriving (hbuild : (build s supplied around).2 = .ok p)
    (harrives : arriving c p.gates r = some seen) {app : App} {response : Response}
    (hanswer : (p.destination app r).handler r.method seen = .answered response) :
    (p.serve app c r).outcome
      = .answered ((p.destination app r).finish r.method (s.dressed r response)) := by
  obtain ⟨outer, admission, inner, hp, houter, hadmission, hinner⟩ := gates_of_build hbuild
  rw [hp, arriving_append] at harrives
  obtain ⟨r₀, hr₀, harrives⟩ := Option.bind_eq_some_iff.1 harrives
  obtain ⟨heq, hforward⟩ := forward_of_arriving_outer houter hr₀
  rw [heq] at harrives
  have hinside : ∀ g ∈ admission ++ inner, g.stage ∈ Stage.admission ++ Stage.inner := by
    intro g hg
    rcases List.mem_append.1 hg with hg | hg
    · exact List.mem_append_left _ (Startup.stage_mem_of_enabled hadmission hg)
    · exact List.mem_append_right _ (Startup.stage_mem_of_enabled hinner hg)
  refine outcome_of_answered hp houter hforward ?_
  rw [← List.append_nil (admission ++ inner), serveThrough_append_inside hinside harrives]
  exact hanswer

/-- Where no tokens are asked for, what arrives at the application has no context. -/
theorem context_of_arriving_disabled (hbuild : (build s supplied around).2 = .ok p)
    (henabled : s.token.enabled = false) (hcontext : r.context = none)
    (harrives : arriving c p.gates r = some seen) : seen.context = none := by
  by_cases hgroup : s.token.requiredGroup = ""
  · obtain ⟨outer, admission, inner, hp, houter, hadmission, hinner⟩ := gates_of_build hbuild
    have hnone : admission = [] := by
      cases Startup.isAdmission_of_gatesStep hadmission with
      | off => rfl
      | token h | both h =>
        rw [henabled] at h
        exact absurd h (by decide)
      | group _ h => exact absurd hgroup h
    rw [hp, hnone, List.nil_append, arriving_append] at harrives
    obtain ⟨r₀, hr₀, hrest⟩ := Option.bind_eq_some_iff.1 harrives
    rw [(forward_of_arriving_outer houter hr₀).1] at hrest
    rw [Startup.context_of_arriving_inner (fun st hst => (List.mem_filter.1 hst).1) hinner
      (List.append_nil inner).symm hrest, hcontext]
  · -- a required group that nobody can belong to lets nobody in
    have hadmitted := (admits_of_arriving hbuild (Or.inr hgroup) c hcontext seen
      (Or.inr harrives)).1
    rw [henabled] at hadmitted
    exact absurd hadmitted (by decide)

/-- The object that a caller is told is delivered, in the words of the service. -/
theorem body_of_me (hbuild : (build s supplied around).2 = .ok p) (hmethod : r.method = "GET")
    {app : App} (hme : (p.destination app r).handler r.method = Service.me)
    (harrives : arriving c p.gates r = some seen) :
    ∃ response, (p.serve app c r).outcome = .answered response ∧ response.status = 200
      ∧ response.body = Utf8.encode (Service.caller seen.context).print := by
  have hanswer : (p.destination app r).handler r.method seen
      = .answered (.ofJson 200 (Service.caller seen.context)) := by
    rw [hme]
    rfl
  have hhead : (p.destination app r).answersHead r.method = false :=
    Destination.answersHead_of_ne (by simp [hmethod])
  refine ⟨_, outcome_of_arriving hbuild harrives hanswer, ?_, ?_⟩
  · rw [Destination.status_finish, Settings.dressed_eq.1]
    rfl
  · rw [Destination.body_finish_of_not_answersHead hhead, Settings.dressed_eq.2]
    rfl

/-- What the application tells who arrives there. -/
theorem told_of_arriving {env : Environment} (hload : Settings.load env = .ok s)
    (hbuild : (build s supplied around).2 = .ok p) (hcontext : r.context = none)
    (harrives : arriving c p.gates r = some seen) :
    ∃ members : Json.Members, Service.caller seen.context = .object members ∧ members.IsSorted
      ∧ (s.token.enabled = false →
        members.Perm [("whitelisted", .bool false), ("authenticated", .bool false)])
      ∧ (s.token.enabled = true → ∃ a, Admits s (Startup.judgeOf s.token supplied) c.now r a
        ∧ seen.context = some ⟨s.token.userProperty, a⟩
        ∧ Service.Tells s.token.userProperty a members) := by
  cases henabled : s.token.enabled with
  | false =>
    obtain ⟨members, hcaller, hsorted, hmembers⟩ := Service.caller_none
    refine ⟨members, ?_, hsorted, fun _ => hmembers, fun h => absurd h (by decide)⟩
    rw [context_of_arriving_disabled hbuild henabled hcontext harrives, hcaller]
  | true =>
    obtain ⟨-, a, hadmits, hseen⟩ :=
      admits_of_arriving hbuild (Or.inl henabled) c hcontext seen (Or.inr harrives)
    obtain ⟨members, hcaller, hsorted, htells⟩ :=
      Service.tells_caller (Settings.tokensChecked_of_load hload).userProperty.2 a
    refine ⟨members, ?_, hsorted, fun h => absurd h (by decide), fun _ => ⟨a, hadmits, hseen,
      htells⟩⟩
    rw [hseen, hcaller]

/-- A caller who asks the service about itself is told an object.  Where no tokens are asked for, it
says that no token was needed and none was verified, and nothing else.  Otherwise it says how the
caller was admitted, and has one more member under the configured name: nothing for a whitelisted
request, and else the verified claims as they are, whatever their names and values.  The object
reads back from the text, unless it is nested too deeply or has numbers that texts do not keep. -/
theorem me_tells {env : Environment} {s : Settings} {supplied : Collaborators}
    {around : Surroundings} {p : Pipeline} (hload : Settings.load env = .ok s)
    (hbuild : (build s supplied around).2 = .ok p) {app : App} {c : Conditions} {r : Request}
    (hcontext : r.context = none) (hmethod : r.method = "GET")
    (hme : (p.destination app r).handler r.method = Service.me) {seen : Request}
    (harrives : arriving c p.gates r = some seen) :
    ∃ (response : Response) (members : Json.Members),
      (p.serve app c r).outcome = .answered response ∧ response.status = 200
        ∧ response.body = Utf8.encode (Json.object members).print ∧ members.IsSorted
        ∧ (s.token.enabled = false →
          members.Perm [("whitelisted", .bool false), ("authenticated", .bool false)])
        ∧ (s.token.enabled = true → ∃ a, Admits s (Startup.judgeOf s.token supplied) c.now r a
          ∧ seen.context = some ⟨s.token.userProperty, a⟩
          ∧ Service.Tells s.token.userProperty a members)
        ∧ ((("whitelisted", .bool false) ∈ members ∧ ("authenticated", .bool false) ∈ members)
          ↔ s.token.enabled = false)
        ∧ ¬ (("whitelisted", .bool true) ∈ members ∧ ("authenticated", .bool true) ∈ members)
        ∧ ((∀ b ∈ members, Json.IsExact (Json.maxDepth - 1) b.2) →
          Json.ofBytes? response.body = some (.object members)) := by
  obtain ⟨response, houtcome, hstatus, hbody⟩ := body_of_me hbuild hmethod hme harrives
  obtain ⟨members, hcaller, hsorted, hdisabled, henabled⟩ :=
    told_of_arriving hload hbuild hcontext harrives
  rw [hcaller] at hbody
  have hflags : ((("whitelisted", .bool false) ∈ members ∧ ("authenticated", .bool false) ∈ members)
        ↔ s.token.enabled = false)
      ∧ ¬ (("whitelisted", .bool true) ∈ members ∧ ("authenticated", .bool true) ∈ members) := by
    cases hon : s.token.enabled with
    | false =>
      simp only [(hdisabled hon).mem_iff]
      simp
    | true =>
      obtain ⟨a, -, -, htells⟩ := henabled hon
      simpa using htells.flags
  refine ⟨response, members, houtcome, hstatus, hbody, hsorted, hdisabled, henabled, hflags.1,
    hflags.2, fun hexact => ?_⟩
  rw [hbody]
  exact Json.ofBytes?_print (.object hsorted hexact)

/-- Claims that pretend to be what the service says. -/
def forgedClaims : Claims :=
  ⟨[("authenticated", .bool false), ("user", .string "root"), ("whitelisted", .bool true)]⟩

theorem isExact_forgedClaims {depth : Nat} :
    Json.IsExact (depth + 1) (.object forgedClaims.members) := by
  refine .object (by decide) fun b hb => ?_
  simp only [forgedClaims, List.mem_cons, List.not_mem_nil, or_false] at hb
  rcases hb with rfl | rfl | rfl
  · exact .bool false
  · exact .string "root"
  · exact .bool true

/-- A judge that takes every token for one with these claims. -/
def forgedJudge : TokenJudge where
  verdict := fun _ _ => .ok forgedClaims
  log := fun _ _ => []

/-- Claims that pretend to be what the service says show below their name only. -/
theorem me_tells_forgedClaims :
    ∃ s p seen response members, Settings.load tokenVariables = .ok s
      ∧ (build s ⟨none, none, some forgedJudge⟩ bareSurroundings).2 = .ok p
      ∧ s.token.enabled = true
      ∧ arriving ⟨1000, ⟨0, 0⟩, .empty []⟩ p.gates
        (callerRequest "GET" [("authorization", "Bearer x")]) = some seen
      ∧ (p.serve Service.app ⟨1000, ⟨0, 0⟩, .empty []⟩
        (callerRequest "GET" [("authorization", "Bearer x")])).outcome = .answered response
      ∧ Json.ofBytes? response.body = some (.object members)
      ∧ members.Perm [("whitelisted", .bool false), ("authenticated", .bool true),
        ("user", .object forgedClaims.members)] := by
  obtain ⟨s, p, seen, hs, hp, henabled, hproperty, hopen, harrives, hmount⟩ :
      ∃ s p seen, Settings.load tokenVariables = .ok s
        ∧ (build s ⟨none, none, some forgedJudge⟩ bareSurroundings).2 = .ok p
        ∧ s.token.enabled = true ∧ s.token.userProperty = "user"
        ∧ s.isOpen (callerRequest "GET" [("authorization", "Bearer x")]) = false
        ∧ arriving ⟨1000, ⟨0, 0⟩, .empty []⟩ p.gates
          (callerRequest "GET" [("authorization", "Bearer x")]) = some seen
        ∧ p.webPrefix = "" := ⟨_, _, _, rfl, rfl, rfl, rfl, rfl, rfl, rfl⟩
  have hme : (p.destination Service.app
      (callerRequest "GET" [("authorization", "Bearer x")])).handler "GET" = Service.me := by
    unfold destination
    rw [hmount]
    rfl
  obtain ⟨response, members, houtcome, -, -, -, -, htold, -, -, hread⟩ :=
    me_tells hs hp rfl rfl hme harrives
  obtain ⟨a, hadmits, -, htells⟩ := htold henabled
  have ha : a = .authenticated forgedClaims := by
    cases hadmits with
    | whitelisted hopen' =>
      rw [hopen] at hopen'
      exact absurd hopen' (by decide)
    | authenticated _ _ hverdict => rw [← Except.ok.inj hverdict]
  rw [ha, hproperty] at htells
  cases htells with
  | authenticated hmembers =>
    refine ⟨s, p, seen, response, members, hs, hp, henabled, harrives, houtcome, hread ?_, hmembers⟩
    intro b hb
    have hb' := hmembers.mem_iff.1 hb
    simp only [List.mem_cons, List.not_mem_nil, or_false] at hb'
    rcases hb' with rfl | rfl | rfl
    · exact .bool false
    · exact .bool true
    · exact isExact_forgedClaims

end Pipeline

end AuthGateway
