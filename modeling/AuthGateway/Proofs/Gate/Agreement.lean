import AuthGateway.Proofs.Gate.Chain
import Mathlib.Data.List.Forall2

/-!
# Judges that agree

Two judges may agree on some tokens only.  A gate that asks for a token looks at no other token than
the one that a request presents, and no gate changes what a request presents
(`Gate.headers_of_enter`).  So chains with such judges do the same, down to every event, to requests
that present no other tokens (`Gate.serveThrough_eq_of_agree`, by induction on the gates).
-/

namespace AuthGateway

/-- Whether a request presents no token but tokens of some kind, in a cookie of a given name or
otherwise. -/
def Request.PresentsOnly (P : String → Prop) (cookieName : String) (r : Request) : Prop :=
  ∀ token, Extraction.ofHeaders r.headers cookieName = .found token → P token

/-- Whether two judges give the same verdict on tokens of some kind, and log the same about them. -/
structure TokenJudge.AgreeOn (P : String → Prop) (judge₁ judge₂ : TokenJudge) : Prop where
  verdict (now : Int) {token : String} (h : P token) :
    judge₁.verdict now token = judge₂.verdict now token
  log (now : Int) {token : String} (h : P token) : judge₁.log now token = judge₂.log now token

theorem TokenJudge.AgreeOn.refl (P : String → Prop) (judge : TokenJudge) : AgreeOn P judge judge :=
  ⟨fun _ _ _ => rfl, fun _ _ _ => rfl⟩

namespace Gate

/-- Whether two gates are the same, but for judges that agree on some tokens. -/
inductive Agree (P : String → Prop) (cookieName : String) : Gate → Gate → Prop where
  | same (g : Gate) : Agree P cookieName g g
  | auth {g : TokenGate} {judge₁ judge₂ : TokenJudge} (hcookie : g.cookieName = cookieName)
    (h : judge₁.AgreeOn P judge₂) :
    Agree P cookieName (.auth { g with judge := judge₁ }) (.auth { g with judge := judge₂ })

variable {P : String → Prop} {cookieName : String} {c : Conditions} {g g₁ g₂ : Gate}
  {r r' : Request}

/-! ### One gate -/

/-- No gate changes the fields of a request. -/
theorem headers_of_enter (h : (g.enter c r).1 = .forward r') : r'.headers = r.headers := by
  by_cases hg : g.stage = .stripPrefix
  · cases g with
    | stripPrefix webPrefix => rw [← Passage.forward.inj h]
    | recovery | compression | verboseLogging | statsd | prometheus | apm | cors | auth
    | groupClaim | static | profiling => exact absurd hg (by simp [stage])
  · obtain ⟨context, rfl⟩ := exists_context_of_enter hg h
    rfl

/-- Judges that agree on the token of a request lead to the same decision. -/
theorem decide_eq_of_agreeOn {g : TokenGate} {judge₁ judge₂ : TokenJudge}
    (h : judge₁.AgreeOn P judge₂) (now : Int) (hr : r.PresentsOnly P g.cookieName) :
    TokenGate.decide { g with judge := judge₁ } now r
      = TokenGate.decide { g with judge := judge₂ } now r := by
  have hopen : TokenGate.isOpen { g with judge := judge₁ } r.path
      = TokenGate.isOpen { g with judge := judge₂ } r.path := rfl
  unfold TokenGate.decide
  rw [hopen]
  split
  · rfl
  · dsimp only
    cases hfound : Extraction.ofHeaders r.headers g.cookieName with
    | found token =>
      have hP : P token := hr token hfound
      dsimp only
      unfold TokenGate.decideToken
      dsimp only
      rw [h.verdict now hP, h.log now hP]
    | malformed => rfl
    | absent => rfl

/-- Gates that agree do the same with a request that presents tokens of that kind. -/
theorem Agree.enter_eq (h : Agree P cookieName g₁ g₂) (hr : r.PresentsOnly P cookieName) :
    g₁.enter c r = g₂.enter c r := by
  cases h with
  | same => rfl
  | @auth g judge₁ judge₂ hcookie hjudges =>
    rw [← hcookie] at hr
    have hdecision := decide_eq_of_agreeOn hjudges c.now hr
    exact congrArg (settle g.responder r) hdecision

/-- Gates that agree do the same with what comes back. -/
theorem Agree.leave_eq (h : Agree P cookieName g₁ g₂) (outcome : Outcome) :
    g₁.leave c r outcome = g₂.leave c r outcome := by
  cases h with
  | same => rfl
  | auth => rfl

/-! ### Chains -/

/-- Chains of gates that agree do the same with a request that presents tokens of that kind. -/
theorem serveThrough_eq_of_agree {gates₁ gates₂ : List Gate}
    (h : List.Forall₂ (Agree P cookieName) gates₁ gates₂) (hr : r.PresentsOnly P cookieName)
    (handler : Handler) : serveThrough c handler gates₁ r = serveThrough c handler gates₂ r := by
  induction h generalizing r with
  | nil => rfl
  | @cons g₁ g₂ gates₁ gates₂ hgate _ ih =>
    rw [serveThrough, serveThrough, ← hgate.enter_eq hr]
    cases hpassage : g₁.enter c r with
    | mk passage events =>
      cases passage with
      | settled outcome => rfl
      | forward r' =>
        -- the gates behind see the same fields, and so the same token
        have hheaders : r'.headers = r.headers := headers_of_enter (by rw [hpassage])
        have hinner := ih (show r'.PresentsOnly P cookieName by
          intro token htoken
          rw [hheaders] at htoken
          exact hr token htoken)
        dsimp only
        rw [hinner, hgate.leave_eq]

end Gate

end AuthGateway
