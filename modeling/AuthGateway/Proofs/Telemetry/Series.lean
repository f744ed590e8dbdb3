import AuthGateway.Proofs.Number.Magnitude
import AuthGateway.Proofs.Telemetry.Metrics
import Mathlib.Data.List.Forall2
import Mathlib.Data.List.Nodup

/-!
# Series in step

A recorder holds one series for each set of labels that was recorded, and no other
(`Recorder.mem_series_foldl`, `Recorder.mem_counters_iff`).  So some records are the tally of some
answers exactly when they have the labels of the answers, in any order
(`Recorder.isTally_foldl_iff`).

Where every request is recorded with a duration, the histograms stand in step with the counters: the
same labels in the same order, each with as many durations as its counter says, and cumulative
buckets (`Recorder.InStep`).  Recording keeps this (`Recorder.InStep.record`), as the bounds of the
buckets are in order (`Histogram.IsCumulative.record`), and so does a run of records
(`Recorder.inStep_foldl`).
-/

namespace AuthGateway

/-! ### Buckets -/

theorem Binary64.le_iff_toRat_le {x y : Binary64} : x.le y = true ↔ x.toRat ≤ y.toRat := by
  have hx := x.denominator_cast_pos
  have hy := y.denominator_cast_pos
  unfold le toRat
  rw [decide_eq_true_eq, div_le_div_iff₀ hx hy]
  exact_mod_cast Iff.rfl

theorem Binary64.le_trans {x y z : Binary64} (hxy : x.le y = true) (hyz : y.le z = true) :
    x.le z = true :=
  le_iff_toRat_le.2 ((le_iff_toRat_le.1 hxy).trans (le_iff_toRat_le.1 hyz))

namespace Histogram

/-- What holds along two lists holds along their pairs. -/
theorem pairwise_zip {α β : Type} {R : α → α → Prop} {S : β → β → Prop} {l : List α}
    {m : List β} (hl : l.Pairwise R) (hm : m.Pairwise S) :
    (l.zip m).Pairwise fun x y => R x.1 y.1 ∧ S x.2 y.2 := by
  induction hl generalizing m with
  | nil => exact .nil
  | cons ha _ ih =>
    cases hm with
    | nil => exact .nil
    | cons hb hm =>
      refine List.pairwise_cons.2 ⟨fun y hy => ?_, ih hm⟩
      obtain ⟨hy₁, hy₂⟩ := List.of_mem_zip hy
      exact ⟨ha _ hy₁, hb _ hy₂⟩

/-- Whether a histogram is cumulative: it has a bucket for each bound, no bucket holds less than one
before it, and the whole holds no less than any of them. -/
structure IsCumulative (bounds : List Binary64) (h : Histogram) : Prop where
  length : h.buckets.length = bounds.length
  sorted : h.buckets.Pairwise (· ≤ ·)
  le_count : ∀ n ∈ h.buckets, n ≤ h.count

variable {bounds : List Binary64}

theorem isCumulative_empty : IsCumulative bounds (empty bounds) := by
  refine ⟨List.length_map _, List.pairwise_map.2 (List.pairwise_of_forall fun _ _ => le_rfl), ?_⟩
  intro n hn
  obtain ⟨_, -, rfl⟩ := List.mem_map.1 hn
  exact Nat.zero_le 0

/-- A duration that does not exceed a bound does not exceed the bounds behind it either, so that
buckets stay in order. -/
theorem IsCumulative.record {h : Histogram} (hh : IsCumulative bounds h)
    (hbounds : bounds.Pairwise fun b b' => b.le b' = true) (x : Binary64) :
    IsCumulative bounds (h.record bounds x) := by
  have hpairs := pairwise_zip hbounds hh.sorted
  refine ⟨?_, ?_, ?_⟩
  · have hzip : (bounds.zip h.buckets).length = bounds.length := by
      rw [List.length_zip, hh.length, Nat.min_self]
    exact (List.length_map _).trans hzip
  · refine List.pairwise_map.2 (hpairs.imp fun {b b'} hb => ?_)
    obtain ⟨hle, hn⟩ := hb
    dsimp only
    split_ifs with hx hx'
    · omega
    · exact absurd (Binary64.le_trans hx hle) hx'
    · omega
    · omega
  · intro n hn
    obtain ⟨b, hb, rfl⟩ := List.mem_map.1 hn
    have hle := hh.le_count b.2 (List.of_mem_zip hb).2
    show (if x.le b.1 = true then b.2 + 1 else b.2) ≤ h.count + 1
    split_ifs
    · omega
    · omega

end Histogram

namespace Recorder

/-- The recorder that a startup sets up. -/
def fresh : Recorder :=
  empty requestBounds

/-- The bounds of request durations are in order. -/
theorem pairwise_requestBounds : requestBounds.Pairwise fun b b' => b.le b' = true := by
  decide

/-! ### Series -/

section Update

variable {α β : Type} {labels : RequestLabels} {series : List (RequestLabels × α)}

/-- A series that is not there yet comes last. -/
theorem keys_update (start : α) (f : α → α) :
    (update labels start f series).map Prod.fst
      = if labels ∈ series.map Prod.fst then series.map Prod.fst
        else series.map Prod.fst ++ [labels] := by
  induction series with
  | nil => rfl
  | cons x rest ih =>
    obtain ⟨l, a⟩ := x
    rw [update]
    by_cases hl : l = labels
    · rw [if_pos hl, if_pos]
      · rfl
      · rw [List.map_cons, hl]
        exact List.mem_cons_self
    · have hmem : labels ∈ List.map Prod.fst ((l, a) :: rest) ↔ labels ∈ rest.map Prod.fst := by
        rw [List.map_cons, List.mem_cons]
        exact or_iff_right fun heq => hl heq.symm
      rw [if_neg hl, List.map_cons, ih]
      simp only [hmem]
      split_ifs
      · rfl
      · rfl

theorem mem_keys_update {labels' : RequestLabels} (start : α) (f : α → α) :
    labels' ∈ (update labels start f series).map Prod.fst
      ↔ labels' ∈ series.map Prod.fst ∨ labels' = labels := by
  rw [keys_update]
  split_ifs with hmem
  · exact ⟨Or.inl, fun h => h.elim id fun heq => heq ▸ hmem⟩
  · rw [List.mem_append, List.mem_singleton]

theorem nodup_keys_update (h : (series.map Prod.fst).Nodup) (start : α) (f : α → α) :
    ((update labels start f series).map Prod.fst).Nodup := by
  rw [keys_update]
  split_ifs with hmem
  · exact h
  · rw [List.nodup_append]
    refine ⟨h, List.nodup_singleton labels, fun l hl l' hl' heq => hmem ?_⟩
    rw [← List.mem_singleton.1 hl', ← heq]
    exact hl

/-- What relates two lists of series, one by one, relates them after a change of both. -/
theorem forall₂_update {Q : RequestLabels × α → RequestLabels × β → Prop}
    {series' : List (RequestLabels × β)} (h : List.Forall₂ Q series series')
    (hkey : ∀ x y, Q x y → y.1 = x.1) {start : α} {start' : β} {f : α → α} {f' : β → β}
    (hstart : Q (labels, f start) (labels, f' start'))
    (hstep : ∀ l a b, Q (l, a) (l, b) → Q (l, f a) (l, f' b)) :
    List.Forall₂ Q (update labels start f series) (update labels start' f' series') := by
  induction h with
  | nil => exact .cons hstart .nil
  | @cons x y rest rest' hxy hrest ih =>
    obtain ⟨l, a⟩ := x
    obtain ⟨l', b⟩ := y
    obtain rfl : l' = l := hkey _ _ hxy
    rw [update, update]
    by_cases hl : l' = labels
    · rw [if_pos hl, if_pos hl]
      exact .cons (hstep l' a b hxy) hrest
    · rw [if_neg hl, if_neg hl]
      exact .cons hxy ih

/-- Where each set of labels has one series, the series that is found is the one that is there. -/
theorem lookup_eq_some_of_mem (h : (series.map Prod.fst).Nodup) {a : α}
    (hmem : (labels, a) ∈ series) : series.lookup labels = some a := by
  induction series with
  | nil => exact absurd hmem List.not_mem_nil
  | cons x rest ih =>
    obtain ⟨l, b⟩ := x
    rw [List.map_cons, List.nodup_cons] at h
    rcases List.mem_cons.1 hmem with heq | hrest
    · obtain ⟨rfl, rfl⟩ := Prod.mk.inj heq
      exact List.lookup_cons_self
    · have hne : (labels == l) = false := by
        refine beq_eq_false_iff_ne.2 fun heq => h.1 ?_
        rw [← heq]
        exact List.mem_map.2 ⟨_, hrest, rfl⟩
      rw [List.lookup_cons, hne]
      exact ih h.2 hrest

end Update

/-- The labels of all series. -/
def series (r : Recorder) : List RequestLabels :=
  r.counters.map Prod.fst

/-- The counters are those of the series, each with its count. -/
theorem mem_counters_iff {r : Recorder} (h : r.series.Nodup) {labels : RequestLabels} {n : Nat} :
    (labels, n) ∈ r.counters ↔ labels ∈ r.series ∧ n = r.count labels := by
  have hcount {m : Nat} (hmem : (labels, m) ∈ r.counters) : r.count labels = m := by
    unfold count
    rw [lookup_eq_some_of_mem h hmem]
    rfl
  constructor
  · intro hmem
    exact ⟨List.mem_map_of_mem hmem, (hcount hmem).symm⟩
  · rintro ⟨hmem, rfl⟩
    obtain ⟨⟨l, m⟩, hm, rfl⟩ := List.mem_map.1 hmem
    rw [hcount hm]
    exact hm

/-- After some records there are the series that were there before, and those that were recorded. -/
theorem mem_series_foldl {r : Recorder} (observations : List Observation)
    {labels : RequestLabels} :
    labels ∈ (observations.foldl record r).series
      ↔ labels ∈ r.series ∨ labels ∈ observations.map Observation.labels := by
  induction observations generalizing r with
  | nil => simp
  | cons o rest ih =>
    have hrecord : labels ∈ (r.record o).series ↔ labels ∈ r.series ∨ labels = o.labels :=
      mem_keys_update _ _
    rw [List.foldl_cons, ih, hrecord, List.map_cons, List.mem_cons, or_assoc]

/-- Whether the series are those of some answers: each counts the answers with its labels, and no
other series exists. -/
structure IsTally (r : Recorder) (answered : List RequestLabels) : Prop where
  count (labels : RequestLabels) : r.count labels = answered.count labels
  series (labels : RequestLabels) : labels ∈ r.series ↔ labels ∈ answered

/-- Some records are those of the answers when they have their labels, in any order. -/
theorem isTally_foldl_iff (bounds : List Binary64) {observations : List Observation}
    {answered : List RequestLabels} :
    (observations.foldl record (.empty bounds)).IsTally answered
      ↔ (observations.map Observation.labels).Perm answered := by
  have hcount (labels : RequestLabels) :
      (observations.foldl record (.empty bounds)).count labels
        = (observations.map Observation.labels).count labels := by
    have hnone : (empty bounds).count labels = 0 := rfl
    rw [count_foldl, hnone, Nat.zero_add, List.count, List.countP_map]
    refine List.countP_congr fun o _ => ?_
    rw [decide_eq_true_eq, Function.comp_apply, beq_iff_eq]
    exact eq_comm
  constructor
  · intro h
    -- the counts alone say what was recorded, but for the order
    refine List.perm_iff_count.2 fun labels => ?_
    rw [← hcount, h.count]
  · intro h
    refine ⟨fun labels => ?_, fun labels => ?_⟩
    · rw [hcount, h.count_eq]
    · rw [mem_series_foldl, h.mem_iff]
      exact or_iff_right List.not_mem_nil

/-- Series that count the same answers, in any order, have the same counters. -/
theorem IsTally.perm_counters {r r' : Recorder} {answered answered' : List RequestLabels}
    (h : r.IsTally answered) (h' : r'.IsTally answered') (hperm : answered.Perm answered')
    (hnodup : r.series.Nodup) (hnodup' : r'.series.Nodup) : r.counters.Perm r'.counters := by
  refine (List.perm_ext_iff_of_nodup (.of_map _ hnodup) (.of_map _ hnodup')).2 ?_
  rintro ⟨labels, n⟩
  rw [mem_counters_iff hnodup, mem_counters_iff hnodup', h.series, h'.series, h.count, h'.count,
    hperm.mem_iff, hperm.count_eq]

/-! ### Durations -/

/-- Whether the histograms stand in step with the counters: there are none, or there is one for each
counter, with as many durations. -/
structure InStep (latency : Bool) (r : Recorder) : Prop where
  nodup : r.series.Nodup
  withoutLatency : latency = false → r.durations = []
  withLatency : latency = true → List.Forall₂ (fun c d => d.1 = c.1 ∧ d.2.count = c.2
    ∧ d.2.IsCumulative r.bounds) r.counters r.durations

theorem inStep_empty (latency : Bool) (bounds : List Binary64) : InStep latency (.empty bounds) :=
  ⟨List.nodup_nil, fun _ => rfl, fun _ => .nil⟩

variable {latency : Bool} {r : Recorder}

/-- Recording keeps histograms and counters in step, with durations everywhere or nowhere. -/
theorem InStep.record (h : r.InStep latency)
    (hbounds : r.bounds.Pairwise fun b b' => b.le b' = true) {o : Observation}
    (ho : o.duration.isSome = latency) : (r.record o).InStep latency := by
  refine ⟨nodup_keys_update h.nodup _ _, fun hlatency => ?_, fun hlatency => ?_⟩
  · have hnone : o.duration = none := by
      rw [hlatency] at ho
      exact Option.isSome_eq_false_iff.1 ho |> Option.isNone_iff_eq_none.1
    unfold Recorder.record
    rw [hnone]
    exact h.withoutLatency hlatency
  · rw [hlatency] at ho
    obtain ⟨d, hd⟩ := Option.isSome_iff_exists.1 ho
    unfold Recorder.record
    rw [hd]
    refine forall₂_update (h.withLatency hlatency) (fun x y hxy => hxy.1) ?_ fun l a b hb => ?_
    · exact ⟨rfl, rfl, Histogram.isCumulative_empty.record hbounds _⟩
    · obtain ⟨-, hcount, hcumulative⟩ := hb
      exact ⟨rfl, congrArg (· + 1) hcount, hcumulative.record hbounds _⟩

/-- A run of records keeps histograms and counters in step. -/
theorem inStep_foldl {observations : List Observation} (h : r.InStep latency)
    (hbounds : r.bounds.Pairwise fun b b' => b.le b' = true)
    (hobservations : ∀ o ∈ observations, o.duration.isSome = latency) :
    (observations.foldl Recorder.record r).InStep latency := by
  induction observations generalizing r with
  | nil => exact h
  | cons o rest ih =>
    have ho := hobservations o List.mem_cons_self
    exact ih (h.record hbounds ho) hbounds fun o' ho' =>
      hobservations o' (List.mem_cons_of_mem o ho')

/-- Recording does not change the bounds. -/
theorem bounds_foldl (observations : List Observation) :
    (observations.foldl Recorder.record r).bounds = r.bounds := by
  induction observations generalizing r with
  | nil => rfl
  | cons o rest ih => exact ih

end Recorder

end AuthGateway
