import AuthGateway.Telemetry.Event
import Mathlib.Tactic.SplitIfs

/-!
# What a recorder counts

The counter of a series counts the observations with its labels (`Recorder.count_take`): recording
one of them adds one to that counter and nothing to the others (`Recorder.count_record`).
-/

namespace AuthGateway.Recorder

/-- Changing the value of one series leaves the others alone. -/
theorem lookup_update {α : Type} (labels : RequestLabels) (start : α) (f : α → α)
    (series : List (RequestLabels × α)) (labels' : RequestLabels) :
    (update labels start f series).lookup labels'
      = if labels' = labels then some (f ((series.lookup labels).getD start))
        else series.lookup labels' := by
  induction series with
  | nil =>
    rw [update, List.lookup_cons, List.lookup_nil, List.lookup_nil]
    split_ifs with h
    · rw [beq_iff_eq.2 h]
      rfl
    · rw [beq_eq_false_iff_ne.2 h]
  | cons b rest ih =>
    obtain ⟨l, a⟩ := b
    rw [update]
    by_cases hl : l = labels
    · -- this is the series that changes
      subst hl
      rw [if_pos rfl, List.lookup_cons_self, List.lookup_cons, List.lookup_cons]
      split_ifs with h
      · rw [beq_iff_eq.2 h]
        rfl
      · rw [beq_eq_false_iff_ne.2 h]
    · have hne : (labels == l) = false := beq_eq_false_iff_ne.2 (Ne.symm hl)
      rw [if_neg hl, List.lookup_cons, List.lookup_cons, List.lookup_cons, ih, hne]
      split_ifs with h
      · rw [h, hne]
      · rfl

/-- Recording a request counts it under its labels. -/
theorem count_record (r : Recorder) (o : Observation) (labels : RequestLabels) :
    (r.record o).count labels = r.count labels + if labels = o.labels then 1 else 0 := by
  unfold count record
  dsimp only
  rw [lookup_update]
  split_ifs with h
  · rw [h]
    rfl
  · rfl

/-- Recording some requests counts those with its labels under each series. -/
theorem count_foldl (r : Recorder) (observations : List Observation) (labels : RequestLabels) :
    (observations.foldl record r).count labels
      = r.count labels + observations.countP (labels = ·.labels) := by
  induction observations generalizing r with
  | nil => rfl
  | cons o rest ih =>
    rw [List.foldl_cons, ih, count_record, List.countP_cons]
    simp only [decide_eq_true_eq]
    omega

/-- A counter counts the observations with its labels. -/
theorem count_take (r : Recorder) (events : List Event) (labels : RequestLabels) :
    (r.take events).count labels = r.count labels
      + (events.filterMap Event.observation?).countP (labels = ·.labels) :=
  count_foldl r _ labels

end AuthGateway.Recorder
