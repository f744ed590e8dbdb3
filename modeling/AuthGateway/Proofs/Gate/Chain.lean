import AuthGateway.Gate.Basic

/-!
# Requests in a chain of gates

A gate changes nothing but the context of a request that it lets through, unless it is the one that
takes off the web prefix (`exists_context_of_enter`).

`arriving` follows a request through gates on its way in: it is the request as it comes out behind
them, if it does.  Chains put together are followed one after the other (`arriving_append`), and what
every gate preserves, the chain preserves (`arriving_preserves`).

On the way out, `leaving` collects what gates do to an outcome that they let pass.  Behind gates
that let a request through unchanged, the outcome is what the gates make of the inner one
(`serveThrough_append_outcome`).
-/

namespace AuthGateway

/-! ### One gate -/

section Enter

variable {c : Conditions} {g : Gate} {r r' : Request}

/-- A gate that may answer lets a request through as it is. -/
theorem eq_of_answerOr {response? : Option Response}
    (h : Gate.answerOr r response? = .forward r') : r' = r := by
  cases response? with
  | none => exact (Passage.forward.inj h).symm
  | some response => exact absurd h (by simp [Gate.answerOr, Passage.answer])

/-- The gate of the static files lets a request through as it is. -/
theorem eq_of_enterSite {site : Site} (h : Gate.enterSite site r = .forward r') : r' = r := by
  unfold Gate.enterSite at h
  split at h
  · exact absurd h (by simp)
  · exact (Passage.forward.inj h).symm

/-- A decision changes nothing but the context of a request. -/
theorem exists_context_of_settle {responder : Responder} {d : Decision × List Event}
    (h : (Gate.settle responder r d).1 = .forward r') : ∃ context, r' = { r with context } := by
  obtain ⟨decision, events⟩ := d
  cases decision with
  | ok context => exact ⟨some context, (Passage.forward.inj h).symm⟩
  | error reason => exact absurd h (by simp [Gate.settle, Passage.answer])

/-- A gate that lets a request through changes nothing but its context, unless it takes off the web
prefix. -/
theorem exists_context_of_enter (hg : g.stage ≠ .stripPrefix)
    (h : (g.enter c r).1 = .forward r') : ∃ context, r' = { r with context } := by
  have hsame (h : r' = r) : ∃ context, r' = { r with context } := ⟨r.context, h⟩
  cases g with
  | stripPrefix webPrefix => exact absurd rfl hg
  | prometheus | cors | profiling => exact hsame (eq_of_answerOr h)
  | auth | groupClaim => exact exists_context_of_settle h
  | static site => exact hsame (eq_of_enterSite h)
  | recovery | compression | verboseLogging | statsd | apm =>
    exact hsame (Passage.forward.inj h).symm

end Enter

/-! ### On the way in -/

/-- A request as it arrives behind gates. -/
def arriving (c : Conditions) : List Gate → Request → Option Request
  | [], r => some r
  | g :: gates, r =>
    match (g.enter c r).1 with
    | .forward r' => arriving c gates r'
    | .settled _ => none

theorem arriving_of_forward {c : Conditions} {g : Gate} {r r' : Request}
    (h : (g.enter c r).1 = .forward r') (gates : List Gate) :
    arriving c (g :: gates) r = arriving c gates r' := by
  rw [arriving, h]

theorem arriving_of_settled {c : Conditions} {g : Gate} {r : Request} {outcome : Outcome}
    (h : (g.enter c r).1 = .settled outcome) (gates : List Gate) :
    arriving c (g :: gates) r = none := by
  rw [arriving, h]

/-- A request that all gates let through as it is arrives as it is. -/
theorem arriving_of_forall {c : Conditions} {gates : List Gate} {r : Request}
    (h : ∀ g ∈ gates, (g.enter c r).1 = .forward r) : arriving c gates r = some r := by
  induction gates with
  | nil => rfl
  | cons g gates ih =>
    rw [arriving_of_forward (h g List.mem_cons_self)]
    exact ih fun g' hg' => h g' (List.mem_cons_of_mem g hg')

/-- A request arrives behind two chains when it arrives behind the second from behind the first. -/
theorem arriving_append (c : Conditions) (front back : List Gate) (r : Request) :
    arriving c (front ++ back) r = (arriving c front r).bind (arriving c back) := by
  induction front generalizing r with
  | nil => rfl
  | cons g front ih =>
    rw [List.cons_append]
    cases h : (g.enter c r).1 with
    | forward r' => rw [arriving_of_forward h, arriving_of_forward h, ih]
    | settled outcome => rw [arriving_of_settled h, arriving_of_settled h, Option.bind_none]

/-- What every gate preserves of a request that it lets through holds of what arrives. -/
theorem arriving_preserves {c : Conditions} {gates : List Gate} {P : Request → Prop}
    (hstep : ∀ g ∈ gates, ∀ r r', P r → (g.enter c r).1 = .forward r' → P r') {r r' : Request}
    (hr : P r) (harrives : arriving c gates r = some r') : P r' := by
  induction gates generalizing r with
  | nil =>
    obtain rfl := Option.some.inj harrives
    exact hr
  | cons g gates ih =>
    cases henter : (g.enter c r).1 with
    | settled outcome =>
      rw [arriving_of_settled henter] at harrives
      exact absurd harrives (by simp)
    | forward r'' =>
      rw [arriving_of_forward henter] at harrives
      have hr'' : P r'' := hstep g List.mem_cons_self r r'' hr henter
      exact ih (fun g' hg' => hstep g' (List.mem_cons_of_mem g hg')) hr'' harrives

/-- Gates change nothing but the context of a request that arrives behind them, unless they take off
the web prefix. -/
theorem exists_context_of_arriving {c : Conditions} {gates : List Gate} {r r' : Request}
    (hgates : ∀ g ∈ gates, g.stage ≠ .stripPrefix) (harrives : arriving c gates r = some r') :
    ∃ context, r' = { r with context } := by
  refine arriving_preserves (P := fun r₁ => ∃ context, r₁ = { r with context }) ?_ ⟨r.context, rfl⟩
    harrives
  rintro g hg _ r₂ ⟨_, rfl⟩ henter
  obtain ⟨context, rfl⟩ := exists_context_of_enter (hgates g hg) henter
  exact ⟨context, rfl⟩

/-! ### On the way out -/

/-- An outcome behind gates as it leaves through them, for a request that entered them all as it
is. -/
def leaving (c : Conditions) (r : Request) (gates : List Gate) (outcome : Outcome) : Outcome :=
  gates.foldr (fun g inner => (g.leave c r inner).1) outcome

/-- A gate that lets a request through makes its reply around the inner one. -/
theorem serveThrough_cons_of_forward {c : Conditions} {g : Gate} {r r' : Request}
    (hg : (g.enter c r).1 = .forward r') (h : Handler) (gates : List Gate) :
    serveThrough c h (g :: gates) r
      = ⟨(g.enter c r).2 ++ (serveThrough c h gates r').events
          ++ (g.leave c r (serveThrough c h gates r').outcome).2,
        (g.leave c r (serveThrough c h gates r').outcome).1⟩ := by
  rw [serveThrough]
  cases hpassage : g.enter c r with
  | mk passage events =>
    obtain rfl : passage = .forward r' := by rw [← hg, hpassage]
    rfl

/-- It makes its outcome of the inner one. -/
theorem serveThrough_of_forward {c : Conditions} {g : Gate} {r r' : Request}
    (hg : (g.enter c r).1 = .forward r') (h : Handler) (gates : List Gate) :
    (serveThrough c h (g :: gates) r).outcome
      = (g.leave c r (serveThrough c h gates r').outcome).1 := by
  rw [serveThrough_cons_of_forward hg]

/-- Gates that let a request through unchanged make their outcome of the inner one. -/
theorem serveThrough_append_outcome {c : Conditions} {front : List Gate} {r : Request}
    (hfront : ∀ g ∈ front, (g.enter c r).1 = .forward r) (h : Handler) (back : List Gate) :
    (serveThrough c h (front ++ back) r).outcome
      = leaving c r front (serveThrough c h back r).outcome := by
  induction front with
  | nil => rfl
  | cons g front ih =>
    have hinner := ih fun g' hg' => hfront g' (List.mem_cons_of_mem g hg')
    rw [List.cons_append, serveThrough_of_forward (hfront g List.mem_cons_self), hinner]
    rfl

/-- The outcome of a gate that settles a request is the outcome of the chain that it begins. -/
theorem serveThrough_of_settled {c : Conditions} {g : Gate} {r : Request} {outcome : Outcome}
    (hg : (g.enter c r).1 = .settled outcome) (h : Handler) (gates : List Gate) :
    (serveThrough c h (g :: gates) r).outcome = outcome := by
  rw [serveThrough]
  cases hpassage : g.enter c r with
  | mk passage events =>
    obtain rfl : passage = .settled outcome := by rw [← hg, hpassage]
    rfl

end AuthGateway
