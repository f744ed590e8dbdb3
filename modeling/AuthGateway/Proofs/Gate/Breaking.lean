import AuthGateway.Proofs.Gate.Chain
import Mathlib.Tactic.SplitIfs

/-!
# When serving a request breaks off

The handler of the application can break off, and so can the file server.  `BreaksOff` says that one
of them does, of a request as it arrives there.  Only the recovery gate turns this into an answer:
a chain without it breaks off exactly when the handler or one of its gates does
(`outcome_eq_panicked_iff`), by induction on the gates, and lets through what broke off behind it
(`leaving_panicked`).
-/

namespace AuthGateway

/-- Serving a request through gates breaks off and leaves a value behind. -/
inductive BreaksOff (c : Conditions) (h : Handler) (gates : List Gate) (r : Request)
    (payload : PanicPayload) : Prop where
  /-- The handler breaks off on the request that arrives. -/
  | handler {r' : Request} (harrives : arriving c gates r = some r')
    (hbreaks : h r' = .panicked payload)
  /-- The file server breaks off on the request that arrives at its gate. -/
  | site {front back : List Gate} {site : Site} {r' : Request}
    (hgates : gates = front ++ .static site :: back) (harrives : arriving c front r = some r')
    (hbreaks : Gate.siteOutcome? site r' = some (.panicked payload))

variable {c : Conditions} {h : Handler} {r r' : Request} {g : Gate} {gates : List Gate}
  {payload : PanicPayload}

/-- The gate of the static files ends a request with what the site makes of it. -/
theorem enter_static {site : Site} {outcome : Outcome}
    (houtcome : Gate.siteOutcome? site r = some outcome) :
    ((Gate.static site).enter c r).1 = .settled outcome := by
  dsimp only [Gate.enter, Gate.enterSite]
  rw [houtcome]

/-- Behind a gate that lets a request through, serving it breaks off where it would without. -/
theorem breaksOff_cons_of_forward (hg : (g.enter c r).1 = .forward r') :
    BreaksOff c h (g :: gates) r payload ↔ BreaksOff c h gates r' payload := by
  constructor
  · rintro (⟨harrives, hbreaks⟩ | @⟨front, back, site, r'', hgates, harrives, hbreaks⟩)
    · rw [arriving_of_forward hg] at harrives
      exact .handler harrives hbreaks
    · cases front with
      | nil =>
        -- the file server would not have let the request through
        obtain ⟨rfl, rfl⟩ := List.cons.inj hgates
        obtain rfl := Option.some.inj harrives
        rw [enter_static hbreaks] at hg
        exact absurd hg (by simp)
      | cons g' front =>
        obtain ⟨rfl, rfl⟩ := List.cons.inj hgates
        rw [arriving_of_forward hg] at harrives
        exact .site rfl harrives hbreaks
  · rintro (⟨harrives, hbreaks⟩ | @⟨front, back, site, r'', hgates, harrives, hbreaks⟩)
    · exact .handler (by rw [arriving_of_forward hg]; exact harrives) hbreaks
    · have hcons : g :: gates = (g :: front) ++ .static site :: back := by
        rw [hgates]
        rfl
      refine .site hcons ?_ hbreaks
      rw [arriving_of_forward hg]
      exact harrives

/-- In front of gates that let a request through unchanged, serving it breaks off where it would
without. -/
theorem breaksOff_append_of_forward {front : List Gate}
    (hfront : ∀ g ∈ front, (g.enter c r).1 = .forward r) :
    BreaksOff c h (front ++ gates) r payload ↔ BreaksOff c h gates r payload := by
  induction front with
  | nil => exact Iff.rfl
  | cons g front ih =>
    rw [List.cons_append, breaksOff_cons_of_forward (hfront g List.mem_cons_self)]
    exact ih fun g' hg' => hfront g' (List.mem_cons_of_mem g hg')

/-- A gate that may answer does not break off. -/
theorem answerOr_ne_panicked (response? : Option Response) :
    Gate.answerOr r response? ≠ .settled (.panicked payload) := by
  cases response? with
  | none => simp [Gate.answerOr]
  | some response => simp [Gate.answerOr, Passage.answer]

/-- Carrying out a decision does not break off. -/
theorem settle_ne_panicked {responder : Responder} (d : Decision × List Event) :
    (Gate.settle responder r d).1 ≠ .settled (.panicked payload) := by
  obtain ⟨decision, events⟩ := d
  cases decision with
  | ok context => simp [Gate.settle]
  | error reason => simp [Gate.settle, Passage.answer]

/-- Of the gates only the file server breaks off. -/
theorem exists_site_of_settled (hg : (g.enter c r).1 = .settled (.panicked payload)) :
    ∃ site, g = .static site ∧ Gate.siteOutcome? site r = some (.panicked payload) := by
  cases g with
  | static site =>
    refine ⟨site, rfl, ?_⟩
    dsimp only [Gate.enter, Gate.enterSite] at hg
    split at hg
    · rename_i outcome houtcome
      rw [houtcome, Passage.settled.inj hg]
    · exact absurd hg (by simp)
  | auth g => exact absurd hg (settle_ne_panicked _)
  | groupClaim g => exact absurd hg (settle_ne_panicked _)
  | prometheus path latency => exact absurd hg (answerOr_ne_panicked _)
  | cors => exact absurd hg (answerOr_ne_panicked _)
  | profiling p => exact absurd hg (answerOr_ne_panicked _)
  | recovery | compression | verboseLogging | statsd | apm | stripPrefix =>
    exact absurd hg (by simp [Gate.enter])

/-- In front of a gate that settles a request, serving it breaks off when the gate does. -/
theorem breaksOff_cons_of_settled {outcome : Outcome} (hg : (g.enter c r).1 = .settled outcome) :
    BreaksOff c h (g :: gates) r payload ↔ outcome = .panicked payload := by
  constructor
  · rintro (⟨harrives, -⟩ | @⟨front, back, site, r'', hgates, harrives, hbreaks⟩)
    · rw [arriving_of_settled hg] at harrives
      exact absurd harrives (by simp)
    · cases front with
      | nil =>
        obtain ⟨rfl, rfl⟩ := List.cons.inj hgates
        obtain rfl := Option.some.inj harrives
        rw [enter_static hbreaks] at hg
        exact (Passage.settled.inj hg).symm
      | cons g' front =>
        obtain ⟨rfl, rfl⟩ := List.cons.inj hgates
        rw [arriving_of_settled hg] at harrives
        exact absurd harrives (by simp)
  · rintro rfl
    obtain ⟨site, rfl, hbreaks⟩ := exists_site_of_settled hg
    have hgates : Gate.static site :: gates = [] ++ .static site :: gates := rfl
    exact .site hgates rfl hbreaks

/-- Only the recovery gate makes an answer of what broke off. -/
theorem leave_eq_panicked_iff (hg : g.stage ≠ .recovery) {outcome : Outcome} :
    (g.leave c r outcome).1 = .panicked payload ↔ outcome = .panicked payload := by
  cases g with
  | recovery => exact absurd rfl hg
  | compression | cors => cases outcome <;> simp [Gate.leave, Outcome.mapResponse]
  | verboseLogging | statsd | prometheus | apm | auth | groupClaim | static | profiling
  | stripPrefix => rfl

/-- Without a recovery gate, serving a request breaks off exactly when the handler or the file
server does. -/
theorem outcome_eq_panicked_iff (hgates : ∀ g ∈ gates, g.stage ≠ .recovery) :
    (serveThrough c h gates r).outcome = .panicked payload ↔ BreaksOff c h gates r payload := by
  induction gates generalizing r with
  | nil =>
    constructor
    · exact .handler rfl
    · rintro (⟨harrives, hbreaks⟩ | @⟨front, _, _, _, hgates, _, _⟩)
      · obtain rfl := Option.some.inj harrives
        exact hbreaks
      · exact absurd hgates (by simp)
  | cons g gates ih =>
    cases henter : (g.enter c r).1 with
    | settled outcome =>
      rw [serveThrough_of_settled henter, breaksOff_cons_of_settled henter]
    | forward r' =>
      rw [serveThrough_of_forward henter, leave_eq_panicked_iff (hgates g List.mem_cons_self),
        breaksOff_cons_of_forward henter]
      exact ih fun g' hg' => hgates g' (List.mem_cons_of_mem g hg')

/-- Without a recovery gate, what broke off leaves as it is. -/
theorem leaving_panicked {c : Conditions} {r : Request} {gates : List Gate}
    (hgates : ∀ g ∈ gates, g.stage ≠ .recovery) (payload : PanicPayload) :
    leaving c r gates (.panicked payload) = .panicked payload := by
  induction gates with
  | nil => rfl
  | cons g gates ih =>
    have hinner := ih fun g' hg' => hgates g' (List.mem_cons_of_mem g hg')
    exact (leave_eq_panicked_iff (hgates g List.mem_cons_self)).2 hinner

/-! ### Requests that ask for no page -/

/-- No gate changes the method of a request. -/
theorem method_of_enter (hg : (g.enter c r).1 = .forward r') : r'.method = r.method := by
  by_cases hstage : g.stage = .stripPrefix
  · cases g with
    | stripPrefix webPrefix => rw [← Passage.forward.inj hg]
    | recovery | compression | verboseLogging | statsd | prometheus | apm | cors | auth | groupClaim
    | static | profiling => exact absurd hstage (by simp [Gate.stage])
  · obtain ⟨context, rfl⟩ := exists_context_of_enter hstage hg
    rfl

/-- The file server has no part in requests that ask for no page. -/
theorem breaksOff_iff_of_not_asksForPage (hr : Method.asksForPage r.method = false) :
    BreaksOff c h gates r payload
      ↔ ∃ r', arriving c gates r = some r' ∧ h r' = .panicked payload := by
  constructor
  · rintro (⟨harrives, hbreaks⟩ | @⟨front, back, site, r', hgates, harrives, hbreaks⟩)
    · exact ⟨_, harrives, hbreaks⟩
    · have hmethod : r'.method = r.method :=
        arriving_preserves (P := fun r₀ => r₀.method = r.method)
          (fun g _ r₀ r₁ hr₀ henter => (method_of_enter henter).trans hr₀) rfl harrives
      have hnone : ¬ Method.asksForPage r'.method = true := by
        rw [hmethod, hr]
        decide
      unfold Gate.siteOutcome? at hbreaks
      rw [if_neg hnone] at hbreaks
      exact absurd hbreaks (by simp)
  · rintro ⟨r', harrives, hbreaks⟩
    exact .handler harrives hbreaks

end AuthGateway
