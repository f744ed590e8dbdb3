import AuthGateway.Proofs.Control.Steps
import AuthGateway.Proofs.Pipeline.Assembly
import Mathlib.Data.List.Forall2

/-!
# Two startups side by side

Two steps match when both fail with the same error, or both succeed with results in a relation
(`Matches`).  Where the steps of every stage match, so do the startups: by induction on the
stages the gates are in the relation one by one (`Startup.matches_gatesStep`,
`Pipeline.matches_build`), and what is logged is the same where every stage logs the same
(`Startup.log_gatesStep`, `Pipeline.log_build`).
-/

namespace AuthGateway

/-! ### Stages -/

namespace Startup

variable {s₁ s₂ : Settings} {supplied : Collaborators} {around : Surroundings}
  {R : Gate → Gate → Prop} {stages : List Stage}

/-- Gates are in a relation one by one where the gates of every stage are. -/
theorem matches_gatesStep (h : ∀ stage ∈ stages,
      Matches R (gateStep s₁ supplied around stage).2 (gateStep s₂ supplied around stage).2) :
    Matches (List.Forall₂ R) (gatesStep s₁ supplied around stages).2
      (gatesStep s₂ supplied around stages).2 := by
  induction stages with
  | nil => exact .ok .nil
  | cons stage stages ih =>
    have hstage := h stage List.mem_cons_self
    have hrest := ih fun st hst => h st (List.mem_cons_of_mem stage hst)
    rw [gatesStep, gatesStep]
    -- all that counts about the two steps is that they match
    revert hstage
    generalize gateStep s₁ supplied around stage = step₁
    generalize gateStep s₂ supplied around stage = step₂
    obtain ⟨log₁, result₁⟩ := step₁
    obtain ⟨log₂, result₂⟩ := step₂
    intro hstage
    cases hstage with
    | error e => exact .error e
    | ok hgate => exact hrest.map fun _ _ hgates => .cons hgate hgates

/-- The same is logged where every stage logs the same. -/
theorem log_gatesStep
    (h : ∀ stage ∈ stages,
      Matches R (gateStep s₁ supplied around stage).2 (gateStep s₂ supplied around stage).2)
    (hlog : ∀ stage ∈ stages,
      (gateStep s₁ supplied around stage).1 = (gateStep s₂ supplied around stage).1) :
    (gatesStep s₁ supplied around stages).1 = (gatesStep s₂ supplied around stages).1 := by
  induction stages with
  | nil => rfl
  | cons stage stages ih =>
    have hstage := h stage List.mem_cons_self
    have hentries := hlog stage List.mem_cons_self
    have hrest := ih (fun st hst => h st (List.mem_cons_of_mem stage hst))
      fun st hst => hlog st (List.mem_cons_of_mem stage hst)
    rw [gatesStep, gatesStep]
    revert hstage hentries
    generalize gateStep s₁ supplied around stage = step₁
    generalize gateStep s₂ supplied around stage = step₂
    obtain ⟨log₁, result₁⟩ := step₁
    obtain ⟨log₂, result₂⟩ := step₂
    intro hstage hentries
    obtain rfl : log₁ = log₂ := hentries
    cases hstage with
    | error e => rfl
    | ok hgate => exact congrArg (log₁ ++ ·) hrest

end Startup

/-! ### The whole -/

namespace Pipeline

open Startup

variable {s₁ s₂ : Settings} {supplied : Collaborators} {around : Surroundings}
  {R : Gate → Gate → Prop}

/-- Whether two pipelines are the same but for gates in a relation. -/
structure SameButGates (R : Gate → Gate → Prop) (p₁ p₂ : Pipeline) : Prop where
  gates : List.Forall₂ R p₁.gates p₂.gates
  recorder : p₁.recorder = p₂.recorder
  webPrefix : p₁.webPrefix = p₂.webPrefix

/-- Pipelines that are the same but for gates that are the same are the same. -/
theorem SameButGates.eq {p₁ p₂ : Pipeline} (h : SameButGates Eq p₁ p₂) : p₁ = p₂ := by
  obtain ⟨gates₁, recorder₁, webPrefix₁⟩ := p₁
  obtain ⟨gates₂, recorder₂, webPrefix₂⟩ := p₂
  obtain ⟨hgates, rfl, rfl⟩ := h
  rw [List.forall₂_eq_eq_eq] at hgates
  obtain rfl : gates₁ = gates₂ := hgates
  rfl

/-- Startups match where those of every stage do. -/
theorem matches_build (hstages : s₁.stages = s₂.stages) (hweb : s₁.webPrefix = s₂.webPrefix)
    (h : ∀ stage, Matches R (gateStep s₁ supplied around stage).2
      (gateStep s₂ supplied around stage).2) :
    Matches (SameButGates R) (build s₁ supplied around).2 (build s₂ supplied around).2 := by
  have hgates : Matches (List.Forall₂ R) (gatesStep s₁ supplied around s₂.stages).2
      (gatesStep s₂ supplied around s₂.stages).2 := matches_gatesStep fun stage _ => h stage
  unfold build
  dsimp only
  rw [hstages]
  revert hgates
  generalize gatesStep s₁ supplied around s₂.stages = steps₁
  generalize gatesStep s₂ supplied around s₂.stages = steps₂
  obtain ⟨log₁, result₁⟩ := steps₁
  obtain ⟨log₂, result₂⟩ := steps₂
  intro hgates
  cases hgates with
  | error e => exact .error e
  | ok hgates => exact .ok ⟨hgates, rfl, hweb⟩

/-- Startups log the same where every stage does. -/
theorem log_build (hstages : s₁.stages = s₂.stages)
    (h : ∀ stage, Matches R (gateStep s₁ supplied around stage).2
      (gateStep s₂ supplied around stage).2)
    (hlog : ∀ stage,
      (gateStep s₁ supplied around stage).1 = (gateStep s₂ supplied around stage).1) :
    (build s₁ supplied around).1 = (build s₂ supplied around).1 := by
  have hgates : Matches (List.Forall₂ R) (gatesStep s₁ supplied around s₂.stages).2
      (gatesStep s₂ supplied around s₂.stages).2 := matches_gatesStep fun stage _ => h stage
  have hentries : (gatesStep s₁ supplied around s₂.stages).1
      = (gatesStep s₂ supplied around s₂.stages).1 :=
    log_gatesStep (fun stage _ => h stage) fun stage _ => hlog stage
  unfold build
  dsimp only
  rw [hstages]
  revert hgates hentries
  generalize gatesStep s₁ supplied around s₂.stages = steps₁
  generalize gatesStep s₂ supplied around s₂.stages = steps₂
  obtain ⟨log₁, result₁⟩ := steps₁
  obtain ⟨log₂, result₂⟩ := steps₂
  intro hgates hentries
  obtain rfl : log₁ = log₂ := hentries
  cases hgates with
  | error e => rfl
  | ok hgates => rfl

end Pipeline

end AuthGateway
