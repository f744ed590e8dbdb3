import AuthGateway.Proofs.Pipeline.Admission
import AuthGateway.Service.Routes

/-!
# Rejections tell nothing

`Pipeline.Rejects` says that a request arrives at a gate of admission and is turned away there for a
reason.  The gates in front of it are of two kinds.  Those outside admission let the request through
as it is and dress the answer on its way out; the gate of admission that may stand in front of the
other one leaves answers alone (`serveThrough_of_refuses`).  So the outcome is the one answer that
the settings ask for, dressed, whatever the reason was (`Pipeline.outcome_of_rejects`).

Dressing an answer takes no part of a request but its origin and what content it accepts
(`Settings.dressed_congr`).  Requests that differ in their credentials only get the same answer
(`Pipeline.rejections_agree`), and it is recognizably the one that was configured
(`TokenSettings.IsRejection`).
-/

namespace AuthGateway

/-! ### Turned away -/

/-- A gate of admission turns a request away that enters it: its rejection, and the reason. -/
inductive Gate.Refuses (c : Conditions) (r : Request) : Gate → Responder → RejectionReason → Prop
  where
  | token {g : TokenGate} {reason : RejectionReason} (h : (g.decide c.now r).1 = .error reason) :
    Refuses c r (.auth g) g.responder reason
  | group {g : GroupGate} {reason : RejectionReason} (h : (g.decide r.context).1 = .error reason) :
    Refuses c r (.groupClaim g) g.responder reason

/-- Whether a request arrives at a gate of admission and is turned away there for a reason. -/
def Pipeline.Rejects (p : Pipeline) (c : Conditions) (r : Request) (reason : RejectionReason) :
    Prop :=
  ∃ front g back r' answer, p.gates = front ++ g :: back ∧ arriving c front r = some r'
    ∧ g.Refuses c r' answer reason

section Gates

variable {c : Conditions} {r r' : Request} {g : Gate} {answer : Responder}
  {reason : RejectionReason}

/-- A gate that turns a request away answers with its rejection. -/
theorem enter_of_refuses (h : g.Refuses c r answer reason) :
    (g.enter c r).1 = .settled (.answered answer.response) := by
  cases h with
  | token h => exact Gate.enter_auth_of_error h
  | group h => exact Gate.enter_groupClaim_of_error h

/-- Only gates of admission turn requests away. -/
theorem stage_of_refuses (h : g.Refuses c r answer reason) : g.stage ∈ Stage.admission := by
  cases h with
  | token => exact List.mem_cons_self
  | group => exact List.mem_cons_of_mem _ List.mem_cons_self

/-- Gates of admission and gates inside leave outcomes alone. -/
theorem leave_of_inside (hg : g.stage ∈ Stage.admission ++ Stage.inner) (outcome : Outcome) :
    (g.leave c r outcome).1 = outcome := by
  cases g with
  | auth | groupClaim | static | profiling | stripPrefix => rfl
  | recovery | compression | verboseLogging | statsd | prometheus | apm | cors =>
    exact absurd hg (by simp [Gate.stage, Stage.admission, Stage.inner])

/-- Such gates make no difference to the outcome where they let a request through. -/
theorem serveThrough_append_inside {front : List Gate}
    (hfront : ∀ g ∈ front, g.stage ∈ Stage.admission ++ Stage.inner)
    (harrives : arriving c front r = some r') (h : Handler) (back : List Gate) :
    (serveThrough c h (front ++ back) r).outcome = (serveThrough c h back r').outcome := by
  induction front generalizing r with
  | nil =>
    obtain rfl := Option.some.inj harrives
    rfl
  | cons g' front ih =>
    cases henter : (g'.enter c r).1 with
    | settled outcome =>
      rw [arriving_of_settled henter] at harrives
      exact absurd harrives (by simp)
    | forward r'' =>
      rw [arriving_of_forward henter] at harrives
      have hinner := ih (fun g hg => hfront g (List.mem_cons_of_mem g' hg)) harrives
      rw [List.cons_append, serveThrough_of_forward henter,
        leave_of_inside (hfront g' List.mem_cons_self), hinner]

/-- Behind gates of admission, a refusal is the outcome. -/
theorem serveThrough_of_refuses {front : List Gate}
    (hfront : ∀ g ∈ front, g.stage ∈ Stage.admission)
    (harrives : arriving c front r = some r') (hrefuses : g.Refuses c r' answer reason)
    (h : Handler) (back : List Gate) :
    (serveThrough c h (front ++ g :: back) r).outcome = .answered answer.response := by
  rw [serveThrough_append_inside (fun g hg => List.mem_append_left _ (hfront g hg)) harrives]
  exact serveThrough_of_settled (enter_of_refuses hrefuses) h back

end Gates

/-- The gates of admission have the one rejection that the settings ask for. -/
theorem Startup.responder_of_refuses {s : Settings} {supplied : Collaborators}
    {around : Surroundings} {stages : List Stage} {gates : List Gate}
    (h : (gatesStep s supplied around stages).2 = .ok gates) {c : Conditions} {r : Request}
    {g : Gate} (hg : g ∈ gates) {answer : Responder} {reason : RejectionReason}
    (hrefuses : g.Refuses c r answer reason) : responder s.token = .ok answer := by
  obtain ⟨stage, -, hgate⟩ := exists_gateStep_of_mem h hg
  cases hrefuses with
  | token =>
    obtain rfl := stage_of_gateStep hgate
    obtain ⟨r, hr, heq⟩ := auth_of_gateStep hgate
    obtain rfl := Gate.auth.inj heq
    exact hr
  | group =>
    obtain rfl := stage_of_gateStep hgate
    obtain ⟨r, hr, heq⟩ := groupClaim_of_gateStep hgate
    obtain rfl := Gate.groupClaim.inj heq
    exact hr

/-! ### Where a gate stands -/

section Rows

variable {α : Type} {front back l l' : List α} {a : α}

/-- What is not in the first of two rows stands in the second. -/
theorem exists_of_not_mem_left (h : l ++ l' = front ++ a :: back) (ha : a ∉ l) :
    ∃ front', front = l ++ front' ∧ l' = front' ++ a :: back := by
  rcases List.append_eq_append_iff.1 h with ⟨front', hfront, hl'⟩ | ⟨rest, rfl, hback⟩
  · exact ⟨front', hfront, hl'⟩
  · cases rest with
    | nil => exact ⟨[], by simp, hback.symm⟩
    | cons b rest =>
      obtain ⟨rfl, -⟩ := List.cons.inj hback
      exact absurd (List.mem_append_right front List.mem_cons_self) ha

/-- What is not in the second of two rows stands in the first. -/
theorem exists_of_not_mem_right (h : l ++ l' = front ++ a :: back) (ha : a ∉ l') :
    ∃ back', l = front ++ a :: back' ∧ back = back' ++ l' := by
  rcases List.append_eq_append_iff.1 h with ⟨rest, rfl, rfl⟩ | ⟨rest, rfl, hback⟩
  · exact absurd (List.mem_append_right rest List.mem_cons_self) ha
  · cases rest with
    | nil =>
      obtain rfl : a :: back = l' := hback
      exact absurd List.mem_cons_self ha
    | cons b rest =>
      obtain ⟨rfl, rfl⟩ := List.cons.inj hback
      exact ⟨rest, rfl, rfl⟩

end Rows

/-! ### The answer -/

namespace Pipeline

variable {s : Settings} {supplied : Collaborators} {around : Surroundings} {p : Pipeline}
  {c : Conditions} {r : Request} {reason : RejectionReason}

/-- A rejected request gets the answer that the settings ask for, whatever the reason is. -/
theorem outcome_of_rejects (hbuild : (build s supplied around).2 = .ok p)
    (h : p.Rejects c r reason) (app : App) :
    ∃ answer, Startup.responder s.token = .ok answer ∧ (p.serve app c r).outcome
      = .answered ((p.destination app r).finish r.method (s.dressed r answer.response)) := by
  obtain ⟨outer, admission, inner, hp, houter, hadmission, hinner⟩ := gates_of_build hbuild
  obtain ⟨front, g, back, r', answer, hgates, harrives, hrefuses⟩ := h
  have hapart : ∀ st ∈ Stage.admission, st ∉ Stage.outer ∧ st ∉ Stage.inner := by
    decide
  obtain ⟨hnotOuter, hnotInner⟩ := hapart g.stage (stage_of_refuses hrefuses)
  -- the gate stands neither outside admission nor inside
  obtain ⟨front', rfl, hrest⟩ := exists_of_not_mem_left (hp.symm.trans hgates) fun hmem =>
    hnotOuter (Startup.stage_mem_of_enabled houter hmem)
  obtain ⟨back', rfl, rfl⟩ := exists_of_not_mem_right hrest fun hmem =>
    hnotInner (Startup.stage_mem_of_enabled hinner hmem)
  rw [arriving_append] at harrives
  obtain ⟨r₀, hr₀, harrives⟩ := Option.bind_eq_some_iff.1 harrives
  obtain ⟨heq, hforward⟩ := forward_of_arriving_outer houter hr₀
  rw [heq] at harrives
  have hfront : ∀ g' ∈ front', g'.stage ∈ Stage.admission := by
    intro g' hg'
    exact Startup.stage_mem_of_enabled hadmission (List.mem_append_left _ hg')
  have houtcome := serveThrough_of_refuses hfront harrives hrefuses
    ((p.destination app r).handler r.method) (back' ++ inner)
  have hmem : g ∈ front' ++ g :: back' := List.mem_append_right front' List.mem_cons_self
  refine ⟨answer, Startup.responder_of_refuses hadmission hmem hrefuses,
    outcome_of_answered hp houter hforward ?_⟩
  rw [List.append_assoc, List.cons_append]
  exact houtcome

/-- A request that is not answered further out is rejected when the token gate turns it away. -/
theorem rejects_of_decide (hbuild : (build s supplied around).2 = .ok p)
    (henabled : s.token.enabled = true) (houtside : ¬ s.AnswersOutside r)
    (hdecide : ∀ answer, ((Startup.tokenGate s (Startup.judgeOf s.token supplied) answer).decide
      c.now r).1 = .error reason) : p.Rejects c r reason := by
  obtain ⟨outer, admission, inner, hp, houter, hadmission, -⟩ := gates_of_build hbuild
  rw [Stage.admission, List.filter_cons_of_pos (show Stage.isEnabled s .auth = true from henabled)]
    at hadmission
  obtain ⟨gate, rest, hgate, -, rfl⟩ := Startup.gatesStep_cons_eq_ok.1 hadmission
  obtain ⟨answer, -, rfl⟩ := Startup.auth_of_gateStep hgate
  exact ⟨outer, _, rest ++ inner, r, answer, hp,
    arriving_of_forall (forward_of_not_answersOutside houter houtside), .token (hdecide answer)⟩

/-- A request that needs a token and offers none is rejected. -/
theorem rejects_of_ofHeaders (hbuild : (build s supplied around).2 = .ok p)
    (henabled : s.token.enabled = true) (houtside : ¬ s.AnswersOutside r)
    (hopen : s.isOpen r = false)
    (hheaders : (Extraction.ofHeaders r.headers s.token.cookieName = .absent ∧ reason = .noToken)
      ∨ (Extraction.ofHeaders r.headers s.token.cookieName = .malformed
        ∧ reason = .invalidToken)) : p.Rejects c r reason := by
  refine rejects_of_decide hbuild henabled houtside fun answer => ?_
  have hclosed : ¬ (Startup.tokenGate s (Startup.judgeOf s.token supplied) answer).isOpen r.path
      = true := by
    rw [show (Startup.tokenGate s _ answer).isOpen r.path = s.isOpen r from rfl, hopen]
    decide
  rw [TokenGate.decide, if_neg hclosed]
  rcases hheaders with ⟨habsent, rfl⟩ | ⟨hmalformed, rfl⟩
  · rw [show Extraction.ofHeaders r.headers (Startup.tokenGate s _ answer).cookieName = _
      from habsent]
  · rw [show Extraction.ofHeaders r.headers (Startup.tokenGate s _ answer).cookieName = _
      from hmalformed]

end Pipeline

/-- The names of fields that can carry a token. -/
def Request.credentialNames : List String :=
  ["cookie", "authorization"]

/-- Whether two requests differ in their credentials only. -/
structure Request.SameButCredentials (r₁ r₂ : Request) : Prop where
  method : r₁.method = r₂.method
  uri : r₁.uri = r₂.uri
  body : r₁.body = r₂.body
  headers : r₁.headers.filter (·.1 ∉ credentialNames)
    = r₂.headers.filter (·.1 ∉ credentialNames)

/-- Requests that differ in their credentials only have the same fields of any other name. -/
theorem Request.SameButCredentials.all_eq {r₁ r₂ : Request} (h : r₁.SameButCredentials r₂)
    {name : String} (hname : name ∉ credentialNames) :
    r₁.headers.all name = r₂.headers.all name := by
  have hkept : ∀ b : String × String, b.1 = name → decide (b.1 ∉ credentialNames) = true := by
    rintro b rfl
    exact decide_eq_true hname
  rw [← Headers.all_filter hkept, h.headers, Headers.all_filter hkept]

namespace Pipeline

/-- A request that is rejected, for whatever reason and at whatever time, gets the same answer as
any other that differs from it in its credentials only and is rejected too; and it is the rejection
that the settings ask for. -/
theorem rejections_agree {s : Settings} {supplied : Collaborators} {around : Surroundings}
    {p : Pipeline} (hbuild : (build s supplied around).2 = .ok p) (app : App) (c₁ c₂ : Conditions)
    {r₁ r₂ : Request} (hsame : r₁.SameButCredentials r₂) {reason₁ reason₂ : RejectionReason}
    (h₁ : p.Rejects c₁ r₁ reason₁) (h₂ : p.Rejects c₂ r₂ reason₂) :
    ∃ response, (p.serve app c₁ r₁).outcome = .answered response
      ∧ (p.serve app c₂ r₂).outcome = .answered response
      ∧ s.token.IsRejection ((p.destination app r₁).answersHead r₁.method) response := by
  obtain ⟨answer, hanswer, houtcome₁⟩ := outcome_of_rejects hbuild h₁ app
  obtain ⟨answer', hanswer', houtcome₂⟩ := outcome_of_rejects hbuild h₂ app
  obtain rfl := Except.ok.inj (hanswer.symm.trans hanswer')
  have hdestination : p.destination app r₁ = p.destination app r₂ := by
    unfold destination Request.path
    rw [hsame.uri]
  have hdressed : s.dressed r₁ answer.response = s.dressed r₂ answer.response :=
    Settings.dressed_congr (hsame.all_eq (by decide)) (hsame.all_eq (by decide))
  refine ⟨_, houtcome₁, ?_, (Startup.isRejection_of_responder hanswer).delivered⟩
  rw [houtcome₂, hdestination, hdressed, hsame.method]

/-- Variables that ask for tokens and for a challenge where there is none. -/
def challengeVariables : Environment := fun name =>
  if name = "JWT_AUTH_NO_TOKEN_STATUS_CODE" then some "401" else tokenVariables name

/-- A pipeline can be built from these variables. -/
theorem exists_build_challengeVariables {s : Settings}
    (h : Settings.load challengeVariables = .ok s) :
    ∃ p, (build s .none bareSurroundings).2 = .ok p := by
  obtain rfl := Except.ok.inj h
  exact ⟨_, rfl⟩

/-- A request for what is known about the caller, with a method and fields. -/
def callerRequest (method : String) (headers : Headers) : Request :=
  ⟨method, .relative "/api/v1/me" none, headers, [], none⟩

/-- What these variables say about such a request. -/
theorem exists_load_challengeVariables :
    ∃ s, Settings.load challengeVariables = .ok s ∧ s.token.enabled = true
      ∧ s.token.rejectionStyle = .challenge ∧ s.webPrefix = ""
      ∧ s.isOpen (callerRequest "GET" []) = false
      ∧ (∀ method headers, method ≠ "OPTIONS" → ¬ s.AnswersOutside (callerRequest method headers))
      ∧ Extraction.ofHeaders [] s.token.cookieName = .absent
      ∧ Extraction.ofHeaders [("authorization", "Basic x")] s.token.cookieName = .malformed := by
  refine ⟨_, rfl, rfl, rfl, rfl, rfl, ?_, rfl, rfl⟩
  rintro method headers hmethod (⟨h, -⟩ | ⟨-, h⟩)
  · exact absurd h Bool.false_ne_true
  · exact hmethod h

/-- A caller without a token and one whose field offers none get the same challenge, at different
times. -/
theorem rejections_agree_challenge :
    ∃ s p response, Settings.load challengeVariables = .ok s
      ∧ (build s .none bareSurroundings).2 = .ok p
      ∧ p.Rejects ⟨1000, ⟨0, 0⟩, .empty []⟩ (callerRequest "GET" []) .noToken
      ∧ p.Rejects ⟨2000, ⟨0, 1⟩, .empty []⟩ (callerRequest "GET" [("authorization", "Basic x")])
        .invalidToken
      ∧ (p.serve Service.app ⟨1000, ⟨0, 0⟩, .empty []⟩ (callerRequest "GET" [])).outcome
        = .answered response
      ∧ (p.serve Service.app ⟨2000, ⟨0, 1⟩, .empty []⟩
        (callerRequest "GET" [("authorization", "Basic x")])).outcome = .answered response
      ∧ s.token.IsRejection false response := by
  obtain ⟨s, hs, henabled, -, -, hopen, houtside, habsent, hmalformed⟩ :=
    exists_load_challengeVariables
  obtain ⟨p, hp⟩ := exists_build_challengeVariables hs
  have hrejects₁ : p.Rejects ⟨1000, ⟨0, 0⟩, .empty []⟩ (callerRequest "GET" []) .noToken :=
    rejects_of_ofHeaders hp henabled (houtside "GET" [] (by decide)) hopen
      (Or.inl ⟨habsent, rfl⟩)
  have hrejects₂ : p.Rejects ⟨2000, ⟨0, 1⟩, .empty []⟩
      (callerRequest "GET" [("authorization", "Basic x")]) .invalidToken :=
    rejects_of_ofHeaders hp henabled (houtside "GET" _ (by decide)) hopen
      (Or.inr ⟨hmalformed, rfl⟩)
  have hsame : (callerRequest "GET" []).SameButCredentials
      (callerRequest "GET" [("authorization", "Basic x")]) := ⟨rfl, rfl, rfl, rfl⟩
  obtain ⟨response, houtcome₁, houtcome₂, hrejection⟩ := rejections_agree hp Service.app
    ⟨1000, ⟨0, 0⟩, .empty []⟩ ⟨2000, ⟨0, 1⟩, .empty []⟩ hsame hrejects₁ hrejects₂
  have hhead : (p.destination Service.app (callerRequest "GET" [])).answersHead "GET" = false := by
    cases p.destination Service.app (callerRequest "GET" []) <;> rfl
  rw [show (callerRequest "GET" []).method = "GET" from rfl, hhead] at hrejection
  exact ⟨s, p, response, hs, hp, hrejects₁, hrejects₂, houtcome₁, houtcome₂, hrejection⟩

/-- Not every challenge has a body: there is none for the head of a page. -/
theorem challenge_without_body :
    ∃ s p response, Settings.load challengeVariables = .ok s
      ∧ (build s .none bareSurroundings).2 = .ok p ∧ s.token.rejectionStyle = .challenge
      ∧ p.Rejects ⟨1000, ⟨0, 0⟩, .empty []⟩ (callerRequest "HEAD" []) .noToken
      ∧ (p.serve Service.app ⟨1000, ⟨0, 0⟩, .empty []⟩ (callerRequest "HEAD" [])).outcome
        = .answered response
      ∧ response.body ≠ Utf8.encode "Not authorized" := by
  obtain ⟨s, hs, henabled, hstyle, hprefix, hopen, houtside, habsent, -⟩ :=
    exists_load_challengeVariables
  obtain ⟨p, hp⟩ := exists_build_challengeVariables hs
  have hrejects : p.Rejects ⟨1000, ⟨0, 0⟩, .empty []⟩ (callerRequest "HEAD" []) .noToken :=
    rejects_of_ofHeaders hp henabled (houtside "HEAD" [] (by decide)) hopen
      (Or.inl ⟨habsent, rfl⟩)
  obtain ⟨answer, -, houtcome⟩ := outcome_of_rejects hp hrejects Service.app
  refine ⟨s, p, _, hs, hp, hstyle, hrejects, houtcome, ?_⟩
  have hhead : (p.destination Service.app (callerRequest "HEAD" [])).answersHead
      (callerRequest "HEAD" []).method = true := by
    unfold destination
    rw [webPrefix_of_build hp, hprefix]
    rfl
  rw [Destination.body_finish_of_answersHead hhead]
  decide

end Pipeline

end AuthGateway
