import AuthGateway.Proofs.Telemetry.Labels
import AuthGateway.Proofs.Telemetry.Series
import Mathlib.Algebra.BigOperators.Group.List.Basic

/-!
# What a scrape lists

A scrape shows series by the text of their labels, each text once
(`Recorder.nodup_keys_byText`).  Where all texts differ, every series is shown with its value
(`Recorder.byText_of_nodup`), and plain labels have texts that differ (`Recorder.byText_of_plain`).
Where two series have the same text, only one of their counts is shown, and less than all in total
(`Recorder.total_byText_lt`).

So series in step, with plain labels, are listed one by one, counters and histograms alike
(`Recorder.InStep.lists`).
-/

namespace AuthGateway

namespace Recorder

section ByText

variable {α : Type} {merge : α → α → α} {shown : List (List Char × α)}

/-- A series whose text has not been shown yet comes last. -/
theorem put_of_notMem {l : RequestLabels} {a : α} (h : l.text ∉ shown.map Prod.fst) :
    byText.put merge l a shown = shown ++ [(l.text, a)] := by
  induction shown with
  | nil => rfl
  | cons x rest ih =>
    obtain ⟨t, b⟩ := x
    rw [List.map_cons, List.mem_cons, not_or] at h
    rw [byText.put, if_neg (Ne.symm h.1), ih h.2]
    rfl

/-- Series with texts of their own are shown one by one. -/
theorem byText_of_nodup {series : List (RequestLabels × α)}
    (h : (shown.map Prod.fst ++ series.map fun x => x.1.text).Nodup) :
    byText merge series shown = shown ++ series.map fun x => (x.1.text, x.2) := by
  induction series generalizing shown with
  | nil => exact (List.append_nil shown).symm
  | cons x rest ih =>
    obtain ⟨l, a⟩ := x
    rw [List.map_cons] at h
    have hl : l.text ∉ shown.map Prod.fst := fun hmem =>
      (List.nodup_append.1 h).2.2 _ hmem _ List.mem_cons_self rfl
    have hnext : ((shown ++ [(l.text, a)]).map Prod.fst ++ rest.map fun x => x.1.text).Nodup := by
      rw [List.map_append, List.append_assoc]
      exact h
    rw [byText, put_of_notMem hl, ih hnext, List.append_assoc]
    rfl

/-- Series with plain labels, each with one value, have texts of their own. -/
theorem byText_of_plain {series : List (RequestLabels × α)} (h : (series.map Prod.fst).Nodup)
    (hplain : ∀ l ∈ series.map Prod.fst, l.IsPlain) :
    byText merge series [] = series.map fun x => (x.1.text, x.2) := by
  have htexts : ((series.map Prod.fst).map RequestLabels.text).Nodup :=
    h.map_on fun l hl l' hl' heq => RequestLabels.text_injective (hplain l hl) (hplain l' hl') heq
  rw [List.map_map] at htexts
  exact byText_of_nodup htexts

/-- A series is shown under its text, which is new or was there. -/
theorem keys_put {l : RequestLabels} {a : α} :
    (byText.put merge l a shown).map Prod.fst
      = if l.text ∈ shown.map Prod.fst then shown.map Prod.fst
        else shown.map Prod.fst ++ [l.text] := by
  by_cases hmem : l.text ∈ shown.map Prod.fst
  · rw [if_pos hmem]
    induction shown with
    | nil => exact absurd hmem List.not_mem_nil
    | cons x rest ih =>
      obtain ⟨t, b⟩ := x
      rw [byText.put]
      split_ifs with ht
      · rfl
      · have hrest : l.text ∈ rest.map Prod.fst :=
          (List.mem_cons.1 hmem).resolve_left fun heq => ht heq.symm
        rw [List.map_cons, ih hrest]
        rfl
  · rw [if_neg hmem, put_of_notMem hmem, List.map_append]
    rfl

theorem mem_keys_put {l : RequestLabels} {a : α} {t : List Char} :
    t ∈ (byText.put merge l a shown).map Prod.fst ↔ t ∈ shown.map Prod.fst ∨ l.text = t := by
  rw [keys_put]
  split_ifs with hmem
  · exact ⟨Or.inl, fun h => h.elim id fun heq => heq ▸ hmem⟩
  · rw [List.mem_append, List.mem_singleton, eq_comm (a := t)]

theorem nodup_keys_put {l : RequestLabels} {a : α} (h : (shown.map Prod.fst).Nodup) :
    ((byText.put merge l a shown).map Prod.fst).Nodup := by
  rw [keys_put]
  split_ifs with hmem
  · exact h
  · exact h.append (List.nodup_singleton _) (List.disjoint_singleton.2 hmem)

/-- The texts that are shown are those of the series. -/
theorem mem_keys_byText {series : List (RequestLabels × α)} {t : List Char} :
    t ∈ (byText merge series shown).map Prod.fst
      ↔ t ∈ shown.map Prod.fst ∨ ∃ l ∈ series.map Prod.fst, l.text = t := by
  induction series generalizing shown with
  | nil => simp [byText]
  | cons x rest ih =>
    obtain ⟨l, a⟩ := x
    rw [byText, ih, mem_keys_put, List.map_cons, List.exists_mem_cons_iff, or_assoc]

/-- Each text is shown once. -/
theorem nodup_keys_byText {series : List (RequestLabels × α)} (h : (shown.map Prod.fst).Nodup) :
    ((byText merge series shown).map Prod.fst).Nodup := by
  induction series generalizing shown with
  | nil => exact h
  | cons x rest ih => exact ih (nodup_keys_put h)

end ByText

/-! ### Totals -/

section Total

variable {β : Type} {shown : List (List Char × ℕ)} {series : List (RequestLabels × ℕ)}
  {l : RequestLabels} {n : ℕ}

/-- The sum of all counts. -/
def total (counts : List (β × ℕ)) : ℕ :=
  (counts.map Prod.snd).sum

@[simp]
theorem total_nil : total ([] : List (β × ℕ)) = 0 :=
  rfl

@[simp]
theorem total_cons (x : β × ℕ) (counts : List (β × ℕ)) :
    total (x :: counts) = x.2 + total counts :=
  List.sum_cons

/-- Showing one more series adds no more than its count. -/
theorem total_put_le : total (byText.put (fun _ n => n) l n shown) ≤ total shown + n := by
  induction shown with
  | nil => simp [byText.put]
  | cons x rest ih =>
    obtain ⟨t, b⟩ := x
    rw [byText.put]
    split_ifs
    · simp only [total_cons]
      omega
    · simp only [total_cons]
      omega

/-- It adds less where another one with the same text is shown already. -/
theorem total_put_lt (hmem : l.text ∈ shown.map Prod.fst) (hshown : ∀ x ∈ shown, 0 < x.2) :
    total (byText.put (fun _ n => n) l n shown) < total shown + n := by
  induction shown with
  | nil => exact absurd hmem List.not_mem_nil
  | cons x rest ih =>
    obtain ⟨t, b⟩ := x
    have hb : 0 < b := hshown (t, b) List.mem_cons_self
    rw [byText.put]
    split_ifs with ht
    · simp only [total_cons]
      omega
    · have hrest : l.text ∈ rest.map Prod.fst :=
        (List.mem_cons.1 hmem).resolve_left fun heq => ht heq.symm
      have hlt := ih hrest fun x hx => hshown x (List.mem_cons_of_mem _ hx)
      simp only [total_cons]
      omega

theorem total_byText_le : total (byText (fun _ n => n) series shown)
    ≤ total shown + total series := by
  induction series generalizing shown with
  | nil => exact Nat.le_refl _
  | cons x rest ih =>
    obtain ⟨l, n⟩ := x
    have hput : total (byText.put (fun _ n => n) l n shown) ≤ total shown + n := total_put_le
    have hrest : total (byText (fun _ n => n) rest (byText.put (fun _ n => n) l n shown))
        ≤ total (byText.put (fun _ n => n) l n shown) + total rest := ih
    rw [byText, total_cons]
    omega

/-- Where two series have the same text, less is shown than there is. -/
theorem total_byText_lt (hseries : ∀ x ∈ series, 0 < x.2) (hshown : ∀ x ∈ shown, 0 < x.2)
    (hkeys : (shown.map Prod.fst).Nodup)
    (h : ¬ (shown.map Prod.fst ++ series.map fun x => x.1.text).Nodup) :
    total (byText (fun _ n => n) series shown) < total shown + total series := by
  induction series generalizing shown with
  | nil =>
    rw [List.map_nil, List.append_nil] at h
    exact absurd hkeys h
  | cons x rest ih =>
    obtain ⟨l, n⟩ := x
    have hn : 0 < n := hseries (l, n) List.mem_cons_self
    have hrestPos : ∀ x ∈ rest, 0 < x.2 := fun x hx => hseries x (List.mem_cons_of_mem _ hx)
    rw [byText, total_cons]
    by_cases hmem : l.text ∈ shown.map Prod.fst
    · have hput : total (byText.put (fun _ n => n) l n shown) < total shown + n :=
        total_put_lt hmem hshown
      have hle : total (byText (fun _ n => n) rest (byText.put (fun _ n => n) l n shown))
          ≤ total (byText.put (fun _ n => n) l n shown) + total rest := total_byText_le
      omega
    · have hput : byText.put (fun _ n => n) l n shown = shown ++ [(l.text, n)] :=
        put_of_notMem hmem
      have htotal : total (shown ++ [(l.text, n)]) = total shown + n := by
        unfold total
        rw [List.map_append, List.sum_append]
        rfl
      have hkeys' : ((shown ++ [(l.text, n)]).map Prod.fst).Nodup := by
        rw [← hput]
        exact nodup_keys_put hkeys
      have hpos : ∀ x ∈ shown ++ [(l.text, n)], 0 < x.2 := by
        intro x hx
        rcases List.mem_append.1 hx with hx | hx
        · exact hshown x hx
        · rw [List.mem_singleton.1 hx]
          exact hn
      have hnext : ¬ ((shown ++ [(l.text, n)]).map Prod.fst
          ++ rest.map fun x => x.1.text).Nodup := by
        rw [List.map_append, List.append_assoc]
        exact h
      have hlt := ih hrestPos hpos hkeys' hnext
      rw [hput]
      omega

/-- All is shown exactly where no two series have the same text. -/
theorem total_byText_eq_iff (hseries : ∀ x ∈ series, 0 < x.2) :
    total (byText (fun _ n => n) series []) = total series
      ↔ (series.map fun x => x.1.text).Nodup := by
  constructor
  · intro heq
    by_contra h
    have hlt : total (byText (fun _ n => n) series [])
        < total ([] : List (List Char × ℕ)) + total series :=
      total_byText_lt hseries (List.forall_mem_nil _) List.nodup_nil h
    rw [total_nil] at hlt
    omega
  · intro h
    have hshown : byText (fun _ n => n) series [] = [] ++ series.map fun x => (x.1.text, x.2) :=
      byText_of_nodup h
    rw [hshown, List.nil_append]
    unfold total
    rw [List.map_map]
    rfl

end Total

variable {r : Recorder}

/-- A scrape lists the counter of each series, and no other. -/
theorem counterSamples_eq (h : r.series.Nodup) (hplain : ∀ l ∈ r.series, l.IsPlain) :
    r.counterSamples
      = r.counters.map fun c => sample totalName c.1.text (Nat.toDigits 10 c.2) := by
  unfold counterSamples
  rw [byText_of_plain h hplain, List.map_map]
  rfl

/-- Histograms in step with the counters have the same series. -/
theorem InStep.keys_durations {latency : Bool} (h : r.InStep latency) (hlatency : latency = true) :
    r.durations.map Prod.fst = r.series := by
  have hkeys := h.withLatency hlatency
  unfold series
  generalize r.durations = durations at hkeys
  generalize r.counters = counters at hkeys
  induction hkeys with
  | nil => rfl
  | cons hxy _ ih => rw [List.map_cons, List.map_cons, hxy.1, ih]

/-- A scrape lists the histogram of each series, and no other. -/
theorem durationSamples_eq {latency : Bool} (h : r.InStep latency)
    (hplain : ∀ l ∈ r.series, l.IsPlain) :
    r.durationSamples = r.durations.flatMap fun d => histogramSamples r.bounds d.1.text d.2 := by
  unfold durationSamples
  have hshown : byText merge r.durations [] = r.durations.map fun x => (x.1.text, x.2) := by
    cases latency with
    | false =>
      rw [h.withoutLatency rfl]
      rfl
    | true =>
      have hkeys := h.keys_durations rfl
      refine byText_of_plain ?_ ?_
      · rw [hkeys]
        exact h.nodup
      · rw [hkeys]
        exact hplain
  rw [hshown, List.flatMap_map]

/-- What a scrape lists of series in step: the counter of each, and, with durations, the histogram
of each, whose whole and whose last bucket show the count of the counter. -/
structure Lists (latency : Bool) (r : Recorder) : Prop where
  counters : r.counterSamples
    = r.counters.map fun c => sample totalName c.1.text (Nat.toDigits 10 c.2)
  durations : r.durationSamples
    = r.durations.flatMap fun d => histogramSamples r.bounds d.1.text d.2
  withoutLatency : latency = false → r.durationSamples = []
  whole : latency = true → ∀ c ∈ r.counters,
    sample (durationName ++ "_count") c.1.text (Nat.toDigits 10 c.2) ∈ r.durationSamples
  lastBucket : latency = true → ∀ c ∈ r.counters,
    sample (durationName ++ "_bucket") (bucketLabels c.1.text "+Inf".toList)
      (Nat.toDigits 10 c.2) ∈ r.durationSamples

/-- The samples of a histogram show how many durations there are, twice. -/
theorem mem_histogramSamples {bounds : List Binary64} (hbounds : bounds ≠ []) (labels : List Char)
    (h : Histogram) :
    sample (durationName ++ "_count") labels (Nat.toDigits 10 h.count)
        ∈ histogramSamples bounds labels h
      ∧ sample (durationName ++ "_bucket") (bucketLabels labels "+Inf".toList)
        (Nat.toDigits 10 h.count) ∈ histogramSamples bounds labels h := by
  unfold histogramSamples
  dsimp only
  rw [if_neg hbounds]
  constructor
  · refine List.mem_append_right _ ?_
    exact List.mem_cons_of_mem _ (List.mem_singleton.2 rfl)
  · refine List.mem_append_left _ (List.mem_append_right _ ?_)
    exact List.mem_singleton.2 rfl

/-- Plain series in step are listed. -/
theorem InStep.lists {latency : Bool} (h : r.InStep latency) (hbounds : r.bounds ≠ [])
    (hplain : ∀ l ∈ r.series, l.IsPlain) : r.Lists latency := by
  have hdurations := durationSamples_eq h hplain
  have hsamples : latency = true → ∀ c ∈ r.counters, ∃ d ∈ r.durations, d.1 = c.1
      ∧ d.2.count = c.2 := by
    intro hlatency c hc
    obtain ⟨i, hi, rfl⟩ := List.getElem_of_mem hc
    have hpairs := h.withLatency hlatency
    have hi' : i < r.durations.length := hpairs.length_eq ▸ hi
    obtain ⟨hkey, hcount, -⟩ := hpairs.get hi hi'
    exact ⟨_, List.getElem_mem hi', hkey, hcount⟩
  refine ⟨counterSamples_eq h.nodup hplain, hdurations, fun hlatency => ?_, fun hlatency c hc => ?_,
    fun hlatency c hc => ?_⟩
  · rw [hdurations, h.withoutLatency hlatency]
    rfl
  · obtain ⟨d, hd, hkey, hcount⟩ := hsamples hlatency c hc
    rw [hdurations, ← hkey, ← hcount]
    exact List.mem_flatMap.2 ⟨d, hd, (mem_histogramSamples hbounds _ _).1⟩
  · obtain ⟨d, hd, hkey, hcount⟩ := hsamples hlatency c hc
    rw [hdurations, ← hkey, ← hcount]
    exact List.mem_flatMap.2 ⟨d, hd, (mem_histogramSamples hbounds _ _).2⟩

end Recorder

end AuthGateway
