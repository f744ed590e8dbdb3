import AuthGateway.Proofs.Number.Positional
import AuthGateway.Proofs.Telemetry.Exposition
import AuthGateway.Proofs.Text.Leading

/-!
# Reading a scrape back

No sample spans lines, whatever its labels show (`Recorder.notMem_of_mem_lines`).  So whoever cuts a
scrape into lines and takes those that begin with the name of the counter and a brace gets the
samples of the counter (`Recorder.samplesOf_render`), and from each of them its labels and its value
(`Recorder.sample_inj`); what is read in this way is one list of counters
(`Recorder.ShowsCounters.unique`).

What the counters count in total goes up by one with each record (`Recorder.total_foldl`), and a
scrape shows all of it exactly when the labels that were recorded are known from their texts
(`Recorder.total_shown_foldl_iff`).
-/

namespace AuthGateway

/-! ### Lines -/

/-- Lines with an end of line behind each of them are cut apart again. -/
theorem Text.splitOn_flatMap_lines {lines : List (List Char)} (h : ∀ line ∈ lines, '\n' ∉ line) :
    (lines.flatMap (· ++ ['\n'])).splitOn '\n' = lines ++ [[]] := by
  induction lines with
  | nil => rfl
  | cons line lines ih =>
    rw [List.flatMap_cons, List.append_assoc, List.singleton_append,
      List.splitOn_append_cons_self_of_not_mem (h line List.mem_cons_self),
      ih fun line' hline' => h line' (List.mem_cons_of_mem line hline')]
    rfl

namespace RequestLabels

/-- Escaping leaves no end of line. -/
theorem notMem_escape (pending : Bool) (s : List Char) : '\n' ∉ escape pending s := by
  induction s generalizing pending with
  | nil => cases pending <;> decide
  | cons c s ih =>
    have hc : c ≠ '\n' → '\n' ∉ c :: escape false s := by
      intro hc hmem
      exact (List.mem_cons.1 hmem).elim (fun h => hc h.symm) (ih false)
    have hbackslash {t : List Char} (ht : '\n' ∉ t) : '\n' ∉ '\\' :: t := by
      rw [List.mem_cons, not_or]
      exact ⟨by decide, ht⟩
    rw [escape]
    split_ifs with hline hquote _ hpending hpending
    · exact hbackslash fun hmem => (List.mem_cons.1 hmem).elim (by decide) (ih pending)
    · exact hbackslash fun hmem => (List.mem_cons.1 hmem).elim (by decide) (ih false)
    · exact hbackslash (hbackslash (ih false))
    · exact ih true
    · exact hbackslash (hbackslash (hc hline))
    · exact hc hline

/-- The text of labels is on one line. -/
theorem notMem_text (l : RequestLabels) : '\n' ∉ l.text := by
  have hlabel {name value : String} (hname : '\n' ∉ name.toList) : '\n' ∉ label name value := by
    have hvalue := notMem_escape false value.toList
    simp [label, hname, hvalue]
  have hstatus : '\n' ∉ label "status" (toString l.status) := hlabel (by decide)
  have hpath : '\n' ∉ label "path" l.path := hlabel (by decide)
  have hmethod : '\n' ∉ label "method" l.method := hlabel (by decide)
  simp only [text, List.intercalate_cons_cons, List.intercalate_singleton, List.mem_append,
    List.mem_singleton, not_or]
  exact ⟨⟨hstatus, by decide⟩, ⟨hpath, by decide⟩, hmethod⟩

end RequestLabels

namespace Recorder

theorem notMem_toDigits (n : ℕ) {c : Char} (hc : c.isDigit = false) : c ∉ Nat.toDigits 10 n := by
  intro hmem
  rw [Nat.isDigit_of_mem_toDigits (by decide) (by decide) hmem] at hc
  exact Bool.noConfusion hc

theorem notMem_sample {name : String} {labels value : List Char} (hname : '\n' ∉ name.toList)
    (hlabels : '\n' ∉ labels) (hvalue : '\n' ∉ value) : '\n' ∉ sample name labels value := by
  simp [sample, hname, hlabels, hvalue]

theorem notMem_positional (x : Binary64) : '\n' ∉ Decimal.positional x := by
  intro hmem
  rcases Decimal.mem_positional hmem with h | h | h
  · exact absurd h (by decide)
  · exact absurd h (by decide)
  · exact absurd h (by decide)

/-- The texts that a scrape shows are on one line. -/
theorem notMem_of_mem_byText {α : Type} {merge : α → α → α} {series : List (RequestLabels × α)}
    {x : List Char × α} (hx : x ∈ byText merge series []) : '\n' ∉ x.1 := by
  obtain ⟨l, -, hl⟩ :=
    (mem_keys_byText.1 (List.mem_map_of_mem hx)).resolve_left List.not_mem_nil
  rw [← hl]
  exact l.notMem_text

variable {r : Recorder} {line : List Char}

theorem notMem_of_mem_counterSamples (h : line ∈ r.counterSamples) : '\n' ∉ line := by
  obtain ⟨x, hx, rfl⟩ := List.mem_map.1 h
  exact notMem_sample (by decide) (notMem_of_mem_byText hx) (notMem_toDigits _ rfl)

/-- The names of the samples of a histogram. -/
def histogramNames : List String :=
  [durationName ++ "_bucket", durationName ++ "_sum", durationName ++ "_count"]

theorem of_mem_histogramNames : ∀ name ∈ histogramNames,
    '\n' ∉ name.toList ∧ '{' ∉ name.toList ∧ name ≠ totalName := by
  decide

/-- The samples of a histogram have one of these names, and are on one line each when the text of
their labels is. -/
theorem exists_of_mem_histogramSamples {bounds : List Binary64} {labels : List Char} {h : Histogram}
    (hlabels : '\n' ∉ labels) (hline : line ∈ histogramSamples bounds labels h) :
    ∃ name ∈ histogramNames, ∃ labels' value, line = sample name labels' value
      ∧ '\n' ∉ labels' ∧ '\n' ∉ value := by
  have hbucket {bound : List Char} (hbound : '\n' ∉ bound) : '\n' ∉ bucketLabels labels bound := by
    simp [bucketLabels, hlabels, hbound]
  unfold histogramSamples at hline
  dsimp only at hline
  rcases List.mem_append.1 hline with hline | hline
  · split_ifs at hline
    · exact absurd hline List.not_mem_nil
    · rcases List.mem_append.1 hline with hline | hline
      · obtain ⟨⟨b, n⟩, -, rfl⟩ := List.mem_map.1 hline
        exact ⟨_, List.mem_cons_self, _, _, rfl, hbucket (notMem_positional b),
          notMem_toDigits n rfl⟩
      · rw [List.mem_singleton.1 hline]
        exact ⟨_, List.mem_cons_self, _, _, rfl, hbucket (by decide), notMem_toDigits _ rfl⟩
  · rcases List.mem_cons.1 hline with rfl | hline
    · exact ⟨_, List.mem_cons_of_mem _ List.mem_cons_self, _, _, rfl, hlabels,
        notMem_positional _⟩
    · rw [List.mem_singleton.1 hline]
      exact ⟨_, List.mem_cons_of_mem _ (List.mem_cons_of_mem _ List.mem_cons_self), _, _, rfl,
        hlabels, notMem_toDigits _ rfl⟩

theorem exists_of_mem_durationSamples (h : line ∈ r.durationSamples) :
    ∃ name ∈ histogramNames, ∃ labels value, line = sample name labels value
      ∧ '\n' ∉ labels ∧ '\n' ∉ value := by
  obtain ⟨x, hx, hline⟩ := List.mem_flatMap.1 h
  exact exists_of_mem_histogramSamples (notMem_of_mem_byText hx) hline

theorem notMem_of_mem_durationSamples (h : line ∈ r.durationSamples) : '\n' ∉ line := by
  obtain ⟨name, hname, labels, value, rfl, hlabels, hvalue⟩ := exists_of_mem_durationSamples h
  exact notMem_sample (of_mem_histogramNames name hname).1 hlabels hvalue

/-- The lines of a metric are its samples, the line with its type and an empty line. -/
theorem mem_metricLines {name kind : String} {samples : List (List Char)}
    (h : line ∈ metricLines name kind samples) :
    line ∈ samples ∨ line = typeLine name kind ∨ line = [] := by
  unfold metricLines at h
  split_ifs at h
  · exact absurd h List.not_mem_nil
  · rcases List.mem_cons.1 h with h | h
    · exact Or.inr (Or.inl h)
    · exact (List.mem_append.1 h).imp_right fun h => Or.inr (List.mem_singleton.1 h)

/-- Every line of a scrape is one line. -/
theorem notMem_of_mem_lines (h : line ∈ r.lines) : '\n' ∉ line := by
  have htype : '\n' ∉ typeLine totalName "counter" ∧ '\n' ∉ typeLine durationName "summary"
      ∧ '\n' ∉ typeLine durationName "histogram" := by
    decide
  rcases List.mem_append.1 h with h | h
  · rcases mem_metricLines h with h | rfl | rfl
    · exact notMem_of_mem_counterSamples h
    · exact htype.1
    · exact List.not_mem_nil
  · rcases mem_metricLines h with h | rfl | rfl
    · exact notMem_of_mem_durationSamples h
    · split_ifs
      · exact htype.2.1
      · exact htype.2.2
    · exact List.not_mem_nil

/-! ### Samples of a metric -/

/-- The lines of a text with the samples of a metric: those that begin with its name and a brace. -/
def samplesOf (name : String) (text : String) : List (List Char) :=
  (text.toList.splitOn '\n').filter (Text.beginsWith (name.toList ++ ['{']))

/-- A sample begins with the name of its metric and a brace, and with no other name and a brace. -/
theorem beginsWith_sample {name name' : String} (hname : '{' ∉ name.toList)
    (hname' : '{' ∉ name'.toList) (labels value : List Char) :
    Text.beginsWith (name.toList ++ ['{']) (sample name' labels value) = true
      ↔ name' = name := by
  have hsample : sample name' labels value
      = name'.toList ++ '{' :: (labels ++ '}' :: ' ' :: value) := by
    unfold sample
    rw [List.append_assoc, List.cons_append]
  rw [Text.beginsWith_iff]
  constructor
  · rintro ⟨rest, hrest⟩
    have hcut {s : List Char} (hs : '{' ∉ s) (t : List Char) :
        Text.cutAt? '{' (s ++ '{' :: t) = some (s, t) :=
      Text.cutAt?_eq_some_iff.2 ⟨hs, rfl⟩
    have hcuts := congrArg (Text.cutAt? '{') hrest
    rw [hsample, hcut hname', List.append_assoc, List.singleton_append, hcut hname] at hcuts
    exact String.toList_injective (Prod.mk.inj (Option.some.inj hcuts)).1
  · rintro rfl
    refine ⟨labels ++ '}' :: ' ' :: value, ?_⟩
    rw [hsample, List.append_assoc, List.singleton_append]

/-- Whoever reads a scrape line by line finds the samples of the counter. -/
theorem samplesOf_render (r : Recorder) : samplesOf totalName r.render = r.counterSamples := by
  have htotal : '{' ∉ totalName.toList := by decide
  have htype (name kind : String) :
      ¬ Text.beginsWith (totalName.toList ++ ['{']) (typeLine name kind) = true := by
    have hhash : typeLine name kind = '#' :: (" TYPE " ++ name ++ " " ++ kind).toList := by
      unfold typeLine
      simp only [String.toList_append]
      rfl
    rw [hhash]
    exact Bool.false_ne_true
  have hcounters : ∀ line ∈ r.counterSamples,
      Text.beginsWith (totalName.toList ++ ['{']) line = true := by
    intro line hline
    obtain ⟨x, -, rfl⟩ := List.mem_map.1 hline
    exact (beginsWith_sample htotal htotal _ _).2 rfl
  have hdurations : ∀ line ∈ r.durationSamples,
      ¬ Text.beginsWith (totalName.toList ++ ['{']) line = true := by
    intro line hline
    obtain ⟨name, hname, labels, value, rfl, -, -⟩ := exists_of_mem_durationSamples hline
    obtain ⟨-, hbrace, hother⟩ := of_mem_histogramNames name hname
    exact fun h => hother ((beginsWith_sample htotal hbrace labels value).1 h)
  unfold samplesOf render
  rw [String.toList_ofList, Text.splitOn_flatMap_lines fun _ => notMem_of_mem_lines, lines]
  simp only [List.filter_append]
  have hmetric (name kind : String) {samples : List (List Char)} :
      (metricLines name kind samples).filter (Text.beginsWith (totalName.toList ++ ['{']))
        = samples.filter (Text.beginsWith (totalName.toList ++ ['{'])) := by
    unfold metricLines
    split_ifs with hsamples
    · rw [hsamples]
    · rw [List.cons_append, List.filter_cons_of_neg (htype name kind), List.filter_append]
      exact List.append_nil _
  rw [hmetric, hmetric, List.filter_eq_self.2 hcounters, List.filter_eq_nil_iff.2 hdurations]
  exact (List.append_nil _).trans (List.append_nil _)

/-- The labels and the value of a sample are known from it. -/
theorem sample_inj {name : String} {labels labels' : List Char} {m n : ℕ}
    (h : sample name labels (Nat.toDigits 10 m) = sample name labels' (Nat.toDigits 10 n)) :
    labels = labels' ∧ m = n := by
  -- the value is what stands behind the last space
  have hkind (n : ℕ) : ∀ c ∈ (Nat.toDigits 10 n).reverse, c.isDigit = true := fun c hc =>
    Nat.isDigit_of_mem_toDigits (by decide) (by decide) (List.mem_reverse.1 hc)
  have hstop {s : List Char} : ∀ c, (' ' :: s).head? = some c → c.isDigit = false := by
    intro c hc
    rw [← Option.some.inj hc]
    rfl
  have hreverse (labels : List Char) (n : ℕ) : (sample name labels (Nat.toDigits 10 n)).reverse
      = (Nat.toDigits 10 n).reverse
        ++ ' ' :: '}' :: (labels.reverse ++ '{' :: name.toList.reverse) := by
    unfold sample
    simp
  have hreversed := congrArg List.reverse h
  rw [hreverse, hreverse] at hreversed
  obtain ⟨hvalue, hfront⟩ :=
    Text.append_inj_of_kind (hkind m) hstop (hkind n) hstop hreversed
  rw [List.cons_inj_right, List.cons_inj_right, List.append_left_inj, List.reverse_inj] at hfront
  exact ⟨hfront, RequestLabels.toDigits_injective (List.reverse_inj.1 hvalue)⟩

/-- Whether a text shows some counters: each in a sample of its own, and no other sample. -/
def ShowsCounters (text : String) (shown : List (List Char × ℕ)) : Prop :=
  samplesOf totalName text = shown.map fun x => sample totalName x.1 (Nat.toDigits 10 x.2)

/-- A text shows one list of counters. -/
theorem ShowsCounters.unique {text : String} {shown shown' : List (List Char × ℕ)}
    (h : ShowsCounters text shown) (h' : ShowsCounters text shown') : shown = shown' := by
  refine List.map_injective_iff.2 ?_ (h.symm.trans h')
  rintro ⟨labels, m⟩ ⟨labels', n⟩ heq
  obtain ⟨rfl, rfl⟩ := sample_inj heq
  rfl

/-! ### Totals of the counters -/

theorem total_update {labels : RequestLabels} {counters : List (RequestLabels × ℕ)} :
    total (update labels 0 (· + 1) counters) = total counters + 1 := by
  induction counters with
  | nil => rfl
  | cons x rest ih =>
    obtain ⟨l, n⟩ := x
    rw [update]
    split_ifs
    · simp only [total_cons]
      omega
    · simp only [total_cons, ih]
      omega

theorem pos_of_mem_update {labels : RequestLabels} {counters : List (RequestLabels × ℕ)}
    (h : ∀ x ∈ counters, 0 < x.2) : ∀ x ∈ update labels 0 (· + 1) counters, 0 < x.2 := by
  induction counters with
  | nil => simp [update]
  | cons y rest ih =>
    obtain ⟨l, n⟩ := y
    have hrest := fun x hx => h x (List.mem_cons_of_mem (l, n) hx)
    rw [update]
    split_ifs
    · exact List.forall_mem_cons.2 ⟨Nat.succ_pos n, hrest⟩
    · exact List.forall_mem_cons.2 ⟨h _ List.mem_cons_self, ih hrest⟩

/-- Each record adds one to the total. -/
theorem total_foldl (r : Recorder) (observations : List Observation) :
    total (observations.foldl record r).counters = total r.counters + observations.length := by
  induction observations generalizing r with
  | nil => rfl
  | cons o rest ih =>
    have hrecord : total (r.record o).counters = total r.counters + 1 := total_update
    rw [List.foldl_cons, ih, hrecord, List.length_cons]
    omega

/-- A series is there when something was recorded. -/
theorem pos_of_mem_counters_foldl (h : ∀ x ∈ r.counters, 0 < x.2)
    (observations : List Observation) :
    ∀ x ∈ (observations.foldl record r).counters, 0 < x.2 := by
  induction observations generalizing r with
  | nil => exact h
  | cons o rest ih => exact ih (pos_of_mem_update h)

/-- Each set of labels keeps one series. -/
theorem nodup_series_foldl (h : r.series.Nodup) (observations : List Observation) :
    (observations.foldl record r).series.Nodup := by
  induction observations generalizing r with
  | nil => exact h
  | cons o rest ih => exact ih (nodup_keys_update h _ _)

/-! ### What is shown of the counters -/

/-- The counters as a scrape shows them, by the texts of their labels. -/
def shown (r : Recorder) : List (List Char × ℕ) :=
  byText (fun _ n => n) r.counters []

/-- A scrape shows them. -/
theorem showsCounters_render (r : Recorder) : ShowsCounters r.render r.shown :=
  samplesOf_render r

/-- Each text is shown once. -/
theorem nodup_keys_shown (r : Recorder) : (r.shown.map Prod.fst).Nodup :=
  nodup_keys_byText List.nodup_nil

variable {bounds : List Binary64}

/-- The texts that are shown are those of the labels that were recorded. -/
theorem mem_keys_shown_foldl (observations : List Observation) {t : List Char} :
    t ∈ (observations.foldl record (.empty bounds)).shown.map Prod.fst
      ↔ ∃ o ∈ observations, o.labels.text = t := by
  have hseries (l : RequestLabels) :
      l ∈ (observations.foldl record (.empty bounds)).counters.map Prod.fst
        ↔ l ∈ observations.map Observation.labels :=
    (mem_series_foldl observations).trans (or_iff_right List.not_mem_nil)
  unfold shown
  rw [mem_keys_byText, List.map_nil, or_iff_right List.not_mem_nil]
  simp only [hseries, List.mem_map, exists_exists_and_eq_and]

/-- All that was recorded is shown exactly when the labels that were recorded are known from their
texts. -/
theorem total_shown_foldl_iff (observations : List Observation) :
    total (observations.foldl record (.empty bounds)).shown = observations.length
      ↔ ∀ o ∈ observations, ∀ o' ∈ observations, o.labels.text = o'.labels.text →
        o.labels = o'.labels := by
  set r := observations.foldl record (.empty bounds) with hr
  have hnodup : r.series.Nodup :=
    nodup_series_foldl (r := .empty bounds) List.nodup_nil observations
  have hpos : ∀ x ∈ r.counters, 0 < x.2 :=
    pos_of_mem_counters_foldl (r := .empty bounds) (List.forall_mem_nil _) observations
  have htotal : total r.counters = observations.length := by
    rw [hr, total_foldl]
    exact Nat.zero_add _
  have htexts : (r.counters.map fun x => x.1.text) = r.series.map RequestLabels.text := by
    unfold series
    rw [List.map_map]
    rfl
  have hseries (l : RequestLabels) : l ∈ r.series ↔ l ∈ observations.map Observation.labels :=
    (mem_series_foldl observations).trans (or_iff_right List.not_mem_nil)
  unfold shown
  rw [← htotal, total_byText_eq_iff hpos, htexts, List.nodup_map_iff_inj_on hnodup]
  simp only [hseries, List.forall_mem_map]

end Recorder

end AuthGateway
