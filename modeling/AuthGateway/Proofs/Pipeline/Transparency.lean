import AuthGateway.Proofs.Gate.Simulation
import AuthGateway.Proofs.Pipeline.Observation
import AuthGateway.Proofs.Settings.Diagnostics

/-!
# What diagnostics change

Chains that were set up for the same stages are alike when the gates of each stage are, or when
those that stand there are silent (`Startup.chainsAlike_of_gatesStep`, by induction on the stages).

The gates that measure, trace or log are silent for every request but a scrape, and all others only
depend on the time (`Gate.alike_self`) and on settings that have no part in diagnostics.  So two
pipelines for the same service give a client the same answer and hand the application the same
request, whatever they measure (`Pipeline.alike_of_sameService`,
`Pipeline.diagnostics_transparent`).
-/

namespace AuthGateway

/-! ### Chains set up for the same stages -/

namespace Startup

/-- Chains set up for the same stages are alike when at each stage there are gates that do the same,
or gates that do nothing. -/
theorem chainsAlike_of_gatesStep {R : Request → Request → Prop} {c₁ c₂ : Conditions}
    {s₁ s₂ : Settings} {supplied₁ supplied₂ : Collaborators} {around₁ around₂ : Surroundings}
    {stages : List Stage}
    (hstages : ∀ stage ∈ stages,
      (stage.isEnabled s₁ = stage.isEnabled s₂
        ∧ ∀ g₁ g₂, stage.isEnabled s₁ = true → (gateStep s₁ supplied₁ around₁ stage).2 = .ok g₁ →
          (gateStep s₂ supplied₂ around₂ stage).2 = .ok g₂ → Gate.Alike R c₁ c₂ g₁ g₂)
      ∨ ((∀ g, stage.isEnabled s₁ = true → (gateStep s₁ supplied₁ around₁ stage).2 = .ok g →
          Gate.IsSilent (fun r => ∃ r', R r r') c₁ g)
        ∧ ∀ g, stage.isEnabled s₂ = true → (gateStep s₂ supplied₂ around₂ stage).2 = .ok g →
          Gate.IsSilent (fun r => ∃ r', R r' r) c₂ g))
    {gates₁ gates₂ : List Gate}
    (h₁ : (gatesStep s₁ supplied₁ around₁ (stages.filter (Stage.isEnabled s₁))).2 = .ok gates₁)
    (h₂ : (gatesStep s₂ supplied₂ around₂ (stages.filter (Stage.isEnabled s₂))).2 = .ok gates₂) :
    Gate.ChainsAlike R c₁ c₂ gates₁ gates₂ := by
  induction stages generalizing gates₁ gates₂ with
  | nil =>
    obtain rfl : [] = gates₁ := Except.ok.inj h₁
    obtain rfl : [] = gates₂ := Except.ok.inj h₂
    exact .nil
  | cons stage stages ih =>
    have hrest {gates₁ gates₂ : List Gate} := @ih
      (fun st hst => hstages st (List.mem_cons_of_mem stage hst)) gates₁ gates₂
    rcases hstages stage List.mem_cons_self with ⟨henabled, halike⟩ | ⟨hsilent₁, hsilent₂⟩
    · by_cases hon : stage.isEnabled s₁ = true
      · rw [List.filter_cons_of_pos hon] at h₁
        rw [List.filter_cons_of_pos (henabled ▸ hon)] at h₂
        obtain ⟨g₁, rest₁, hg₁, hrest₁, rfl⟩ := gatesStep_cons_eq_ok.1 h₁
        obtain ⟨g₂, rest₂, hg₂, hrest₂, rfl⟩ := gatesStep_cons_eq_ok.1 h₂
        exact .both (halike g₁ g₂ hon hg₁ hg₂) (hrest hrest₁ hrest₂)
      · rw [List.filter_cons_of_neg hon] at h₁
        rw [List.filter_cons_of_neg (henabled ▸ hon)] at h₂
        exact hrest h₁ h₂
    · -- a silent gate on either side goes with none on the other
      suffices hleft : ∀ {gates₂}, (gatesStep s₂ supplied₂ around₂
          (stages.filter (Stage.isEnabled s₂))).2 = .ok gates₂ →
          Gate.ChainsAlike R c₁ c₂ gates₁ gates₂ by
        by_cases hon : stage.isEnabled s₂ = true
        · rw [List.filter_cons_of_pos hon] at h₂
          obtain ⟨g₂, rest₂, hg₂, hrest₂, rfl⟩ := gatesStep_cons_eq_ok.1 h₂
          exact .right (hsilent₂ g₂ hon hg₂) (hleft hrest₂)
        · rw [List.filter_cons_of_neg hon] at h₂
          exact hleft h₂
      intro gates₂ h₂
      by_cases hon : stage.isEnabled s₁ = true
      · rw [List.filter_cons_of_pos hon] at h₁
        obtain ⟨g₁, rest₁, hg₁, hrest₁, rfl⟩ := gatesStep_cons_eq_ok.1 h₁
        exact .left (hsilent₁ g₁ hon hg₁) (hrest hrest₁ h₂)
      · rw [List.filter_cons_of_neg hon] at h₁
        exact hrest h₁ h₂

end Startup

/-- Requests that lead to the same place get replies that are alike when the chains in front of it
give such replies. -/
theorem Pipeline.serve_alike {p₁ p₂ : Pipeline} {app : App} {c₁ c₂ : Conditions}
    {r₁ r₂ : Request} (hdestination : p₁.destination app r₁ = p₂.destination app r₂)
    (hmethod : r₁.method = r₂.method)
    (h : Reply.Alike (serveThrough c₁ ((p₁.destination app r₁).handler r₁.method) p₁.gates r₁)
      (serveThrough c₂ ((p₁.destination app r₁).handler r₁.method) p₂.gates r₂)) :
    Reply.Alike (p₁.serve app c₁ r₁) (p₂.serve app c₂ r₂) := by
  unfold Pipeline.serve
  rw [← hdestination, ← hmethod]
  constructor
  · exact congrArg (Outcome.mapResponse _) h.outcome
  · exact h.tokens

/-! ### Silent gates -/

namespace Startup

variable {s s₁ s₂ : Settings} {supplied supplied₁ supplied₂ : Collaborators}
  {around : Surroundings} {network : Network} {recorderInstalled : Bool} {c c₁ c₂ : Conditions}

/-- The stages of diagnostics. -/
def diagnostics : List Stage :=
  [.verboseLogging, .statsd, .prometheus, .apm]

/-- The gate of a stage of diagnostics is silent for every request that is no scrape. -/
theorem isSilent_of_gateStep {stage : Stage} (hstage : stage ∈ diagnostics) {g : Gate}
    (h : (gateStep s supplied around stage).2 = .ok g) {P : Request → Prop}
    (hP : stage = .prometheus → ∀ r, P r → r.path ≠ s.prometheus.path) : g.IsSilent P c := by
  cases stage with
  | verboseLogging | apm =>
    obtain rfl := Except.ok.inj h
    exact ⟨fun _ => rfl, fun _ _ => rfl⟩
  | statsd =>
    obtain ⟨client, -, rfl⟩ := exists_of_map_eq_ok h
    exact ⟨fun _ => rfl, fun _ _ => rfl⟩
  | prometheus =>
    obtain ⟨_, -, rfl⟩ := exists_of_map_eq_ok h
    refine ⟨fun {r} hr => ?_, fun _ _ => rfl⟩
    have hpath : r.path ≠ s.prometheus.path := hP rfl r hr
    rw [Gate.enter, Gate.scrapeAnswer?, if_neg hpath]
    rfl
  | recovery | compression | cors | auth | groupClaim | static | profiling | stripPrefix =>
    exact absurd hstage (by decide)

/-- The judges of settings for the same service give the same verdicts. -/
theorem verdict_judgeOf (hservice : Settings.SameService s₁ s₂)
    (hjudge : supplied₁.judge = supplied₂.judge) :
    (judgeOf s₁.token supplied₁).verdict = (judgeOf s₂.token supplied₂).verdict := by
  unfold judgeOf
  rw [hservice.token, hjudge]
  cases supplied₂.judge with
  | some judge => rfl
  | none => rfl

/-- Settings for the same service answer rejected requests in the same way. -/
theorem responder_congr (hservice : Settings.SameService s₁ s₂) :
    responder s₁.token = responder s₂.token := by
  rw [hservice.token]
  rfl

/-- The gates that settings for the same service ask for at the other stages do the same. -/
theorem alike_of_gateStep (hservice : Settings.SameService s₁ s₂)
    (hjudge : supplied₁.judge = supplied₂.judge) (hnow : c₁.now = c₂.now) {stage : Stage}
    (hstage : stage ∉ diagnostics) {P : String → Prop}
    (hP : stage = .stripPrefix → ∀ path, P path) {g₁ g₂ : Gate}
    (h₁ : (gateStep s₁ supplied₁ around stage).2 = .ok g₁)
    (h₂ : (gateStep s₂ supplied₂ { around with network, recorderInstalled } stage).2 = .ok g₂) :
    Gate.Alike (Gate.SameAt P) c₁ c₂ g₁ g₂ := by
  have hstep₁ := stage_of_gateStep h₁
  -- all gates but the one that asks for a token are the same
  have hsame (h : g₂ = g₁) : Gate.Alike (Gate.SameAt P) c₁ c₂ g₁ g₂ := by
    rw [h]
    refine Gate.alike_self hnow (fun hscrape => ?_) fun hstrip => hP (hstep₁.symm.trans hstrip)
    rw [hstep₁] at hscrape
    exact hstage (by rw [hscrape]; decide)
  cases stage with
  | recovery | compression | cors =>
    obtain rfl := Except.ok.inj h₁
    obtain rfl := Except.ok.inj h₂
    exact hsame rfl
  | auth =>
    obtain ⟨r₁, hr₁, rfl⟩ := auth_of_gateStep h₁
    obtain ⟨r₂, hr₂, rfl⟩ := auth_of_gateStep h₂
    rw [responder_congr hservice] at hr₁
    obtain rfl := Except.ok.inj (hr₁.symm.trans hr₂)
    refine Gate.alike_auth hnow ?_ (verdict_judgeOf hservice hjudge)
    unfold tokenGate
    rw [hservice.token, hservice.webPrefix]
    rfl
  | groupClaim =>
    obtain ⟨r₁, hr₁, rfl⟩ := groupClaim_of_gateStep h₁
    obtain ⟨r₂, hr₂, rfl⟩ := groupClaim_of_gateStep h₂
    rw [responder_congr hservice] at hr₁
    obtain rfl := Except.ok.inj (hr₁.symm.trans hr₂)
    exact hsame (by rw [hservice.token])
  | static =>
    obtain rfl := Except.ok.inj h₁
    obtain rfl := Except.ok.inj h₂
    exact hsame (by rw [hservice.staticDirectory, hservice.webPrefix])
  | profiling =>
    obtain rfl := Except.ok.inj h₁
    obtain rfl := Except.ok.inj h₂
    exact hsame rfl
  | stripPrefix =>
    obtain rfl := Except.ok.inj h₁
    obtain rfl := Except.ok.inj h₂
    exact hsame (by rw [hservice.webPrefix])
  | verboseLogging | statsd | prometheus | apm => exact absurd (by decide) hstage

/-- Settings for the same service ask for the same stages, but for diagnostics. -/
theorem isEnabled_congr (hservice : Settings.SameService s₁ s₂) {stage : Stage}
    (hstage : stage ∉ diagnostics) : stage.isEnabled s₁ = stage.isEnabled s₂ := by
  cases stage with
  | recovery | static => rfl
  | compression => exact hservice.gzipEnabled
  | cors => exact hservice.corsEnabled
  | auth =>
    unfold Stage.isEnabled
    rw [hservice.token]
  | groupClaim =>
    unfold Stage.isEnabled
    rw [hservice.token]
  | profiling => exact hservice.profilingEnabled
  | stripPrefix =>
    unfold Stage.isEnabled
    rw [hservice.webPrefix]
  | verboseLogging | statsd | prometheus | apm => exact absurd (by decide) hstage

end Startup

namespace Pipeline

variable {s₁ s₂ : Settings} {supplied₁ supplied₂ : Collaborators} {around : Surroundings}
  {network : Network} {recorderInstalled : Bool} {p₁ p₂ : Pipeline} {c₁ c₂ : Conditions}

/-- Whether a path is no scrape path of settings that ask for scrapes. -/
def IsUnscraped (s : Settings) (path : String) : Prop :=
  s.prometheus.enabled = true → path ≠ s.prometheus.path

/-- What arrives is the same where it is in the relation. -/
theorem eq_of_rel_sameAt {P : String → Prop} {a b : Option Request}
    (h : Option.Rel (Gate.SameAt P) a b) : a = b := by
  cases h with
  | some h => rw [h.1]
  | none => rfl

/-- The gates outside admission are alike for requests that are no scrapes, and those behind them
for all requests. -/
theorem exists_chainsAlike_of_build (hservice : Settings.SameService s₁ s₂)
    (hjudge : supplied₁.judge = supplied₂.judge)
    (hbuild₁ : (build s₁ supplied₁ around).2 = .ok p₁)
    (hbuild₂ : (build s₂ supplied₂ { around with network, recorderInstalled }).2 = .ok p₂)
    (hnow : c₁.now = c₂.now) :
    ∃ outer₁ back₁ outer₂ back₂, p₁.gates = outer₁ ++ back₁ ∧ p₂.gates = outer₂ ++ back₂
      ∧ Gate.ChainsAlike (Gate.SameAt fun path => IsUnscraped s₁ path ∧ IsUnscraped s₂ path) c₁ c₂
        outer₁ outer₂
      ∧ Gate.ChainsAlike (Gate.SameAt fun _ => True) c₁ c₂ back₁ back₂ := by
  have hgates₁ := gatesStep_of_build hbuild₁
  have hgates₂ := gatesStep_of_build hbuild₂
  rw [Settings.stages, Stage.all_eq, List.filter_append] at hgates₁ hgates₂
  obtain ⟨outer₁, back₁, houter₁, hback₁, hp₁⟩ := Startup.gatesStep_append_eq_ok.1 hgates₁
  obtain ⟨outer₂, back₂, houter₂, hback₂, hp₂⟩ := Startup.gatesStep_append_eq_ok.1 hgates₂
  refine ⟨outer₁, back₁, outer₂, back₂, hp₁, hp₂, ?_, ?_⟩
  · refine Startup.chainsAlike_of_gatesStep (fun stage hstage => ?_) houter₁ houter₂
    by_cases hdiagnostics : stage ∈ Startup.diagnostics
    · right
      constructor
      · intro g henabled hg
        refine Startup.isSilent_of_gateStep hdiagnostics hg ?_
        rintro rfl r ⟨_, -, hr, -⟩
        exact hr henabled
      · intro g henabled hg
        refine Startup.isSilent_of_gateStep hdiagnostics hg ?_
        rintro rfl _ ⟨r, rfl, -, hr⟩
        exact hr henabled
    · left
      refine ⟨Startup.isEnabled_congr hservice hdiagnostics, fun g₁ g₂ _ hg₁ hg₂ => ?_⟩
      refine Startup.alike_of_gateStep hservice hjudge hnow hdiagnostics ?_ hg₁ hg₂
      rintro rfl
      exact absurd hstage (by decide)
  · refine Startup.chainsAlike_of_gatesStep (fun stage hstage => ?_) hback₁ hback₂
    have hdiagnostics : stage ∉ Startup.diagnostics := by
      have hapart : ∀ stage ∈ Stage.admission ++ Stage.inner, stage ∉ Startup.diagnostics := by
        decide
      exact hapart stage hstage
    left
    exact ⟨Startup.isEnabled_congr hservice hdiagnostics, fun g₁ g₂ _ hg₁ hg₂ =>
      Startup.alike_of_gateStep hservice hjudge hnow hdiagnostics (fun _ _ => trivial) hg₁ hg₂⟩

/-- Pipelines for the same service do the same to a request that is a scrape for neither. -/
theorem alike_of_sameService (hservice : Settings.SameService s₁ s₂)
    (hjudge : supplied₁.judge = supplied₂.judge)
    (hbuild₁ : (build s₁ supplied₁ around).2 = .ok p₁)
    (hbuild₂ : (build s₂ supplied₂ { around with network, recorderInstalled }).2 = .ok p₂)
    (hnow : c₁.now = c₂.now) (app : App) {r : Request} (hr₁ : IsUnscraped s₁ r.path)
    (hr₂ : IsUnscraped s₂ r.path) :
    Reply.Alike (p₁.serve app c₁ r) (p₂.serve app c₂ r)
      ∧ arriving c₁ p₁.gates r = arriving c₂ p₂.gates r
      ∧ p₁.destination app r = p₂.destination app r := by
  obtain ⟨outer₁, back₁, outer₂, back₂, hp₁, hp₂, houter, hback⟩ :=
    exists_chainsAlike_of_build hservice hjudge hbuild₁ hbuild₂ hnow
  have hdestination : p₁.destination app r = p₂.destination app r := by
    unfold destination
    rw [webPrefix_of_build hbuild₁, webPrefix_of_build hbuild₂, hservice.webPrefix]
  refine ⟨serve_alike hdestination rfl ?_, ?_, hdestination⟩
  · rw [hp₁, hp₂]
    refine houter.serveThrough_append ⟨rfl, hr₁, hr₂⟩ ?_
    rintro r' _ ⟨rfl, -⟩
    exact hback.serveThrough ⟨rfl, trivial⟩ fun h => by rw [h.1]
  · have hfirst := eq_of_rel_sameAt (houter.arriving ⟨rfl, hr₁, hr₂⟩)
    rw [hp₁, hp₂, arriving_append, arriving_append, hfirst]
    refine Option.bind_congr fun r' _ => ?_
    exact eq_of_rel_sameAt (hback.arriving ⟨rfl, trivial⟩)

/-- Telemetry and diagnostics are transparent.  Where two environments agree on all variables that
have another purpose, the pipelines built from them give a client the same answer to every request
that is a scrape for neither, also in place of a handler that breaks off.  They hand the same
request to the same handler of the application, and put the same tokens to the judge. -/
theorem diagnostics_transparent {env₁ env₂ : Environment}
    (henv : ∀ name, Environment.isDiagnostic name = false → env₁ name = env₂ name)
    (hload₁ : Settings.load env₁ = .ok s₁) (hload₂ : Settings.load env₂ = .ok s₂)
    {supplied : Collaborators} {statsd : Option StatsdClient} {recorder : Option Recorder}
    (hbuild₁ : (build s₁ supplied around).2 = .ok p₁)
    (hbuild₂ : (build s₂ { supplied with statsd, recorder }
      { around with network, recorderInstalled }).2 = .ok p₂)
    (hnow : c₁.now = c₂.now) (app : App) {r : Request}
    (hr₁ : s₁.prometheus.enabled = true → r.path ≠ s₁.prometheus.path)
    (hr₂ : s₂.prometheus.enabled = true → r.path ≠ s₂.prometheus.path) :
    (p₁.serve app c₁ r).outcome = (p₂.serve app c₂ r).outcome
      ∧ p₁.destination app r = p₂.destination app r
      ∧ arriving c₁ p₁.gates r = arriving c₂ p₂.gates r
      ∧ Event.tokens (p₁.serve app c₁ r).events = Event.tokens (p₂.serve app c₂ r).events := by
  have hjudge : supplied.judge = Collaborators.judge { supplied with statsd, recorder } := rfl
  obtain ⟨hreply, harriving, hdestination⟩ := alike_of_sameService
    (Settings.sameService_of_load henv hload₁ hload₂) hjudge hbuild₁ hbuild₂ hnow app hr₁ hr₂
  exact ⟨hreply.outcome, hdestination, harriving, hreply.tokens⟩

/-- A handler that breaks off shows the same with telemetry and without. -/
theorem diagnostics_transparent_breakingApp :
    ∃ s₁ s₂ p₁ p₂, Settings.load telemetryVariables = .ok s₁
      ∧ Settings.load (fun _ => none) = .ok s₂ ∧ (build s₁ .none bareSurroundings).2 = .ok p₁
      ∧ (build s₂ .none bareSurroundings).2 = .ok p₂ ∧ s₁.prometheus.enabled = true
      ∧ s₂.prometheus.enabled = false
      ∧ (p₁.serve breakingApp ⟨1000, ⟨0, 0⟩, p₁.recorder⟩ (submission "/job")).outcome
        = (p₂.serve breakingApp ⟨1000, ⟨3, 0⟩, .empty []⟩ (submission "/job")).outcome
      ∧ arriving ⟨1000, ⟨3, 0⟩, .empty []⟩ p₂.gates (submission "/job")
        = some (submission "/job") := by
  obtain ⟨s₁, p₁, hs₁, -, hprometheus₁, hpath₁, -, hp₁, hserve⟩ :=
    exists_build_telemetryVariables
  obtain ⟨s₂, p₂, hs₂, hp₂, hprometheus₂⟩ : ∃ s₂ p₂, Settings.load (fun _ => none) = .ok s₂
      ∧ (build s₂ .none bareSurroundings).2 = .ok p₂ ∧ s₂.prometheus.enabled = false :=
    ⟨_, _, rfl, rfl, rfl⟩
  have henv : ∀ name, Environment.isDiagnostic name = false →
      telemetryVariables name = (fun _ => none) name := by
    intro name hname
    unfold telemetryVariables
    refine if_neg ?_
    rintro (rfl | rfl) <;> exact absurd hname (by decide)
  have hr₁ : s₁.prometheus.enabled = true → (submission "/job").path ≠ s₁.prometheus.path := by
    intro _
    rw [hpath₁]
    decide
  have hr₂ : s₂.prometheus.enabled = true → (submission "/job").path ≠ s₂.prometheus.path := by
    rw [hprometheus₂]
    exact fun h => absurd h (by decide)
  have hnow : Conditions.now ⟨1000, ⟨0, 0⟩, p₁.recorder⟩
      = Conditions.now ⟨1000, ⟨3, 0⟩, .empty []⟩ := rfl
  obtain ⟨houtcome, -, harriving, -⟩ :=
    diagnostics_transparent henv hs₁ hs₂ hp₁ hp₂ hnow breakingApp hr₁ hr₂
  exact ⟨s₁, s₂, p₁, p₂, hs₁, hs₂, hp₁, hp₂, hprometheus₁, hprometheus₂, houtcome,
    harriving.symm.trans (hserve _).1⟩

end Pipeline

end AuthGateway
