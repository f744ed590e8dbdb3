import AuthGateway.Http.Request
import AuthGateway.Proofs.Text.Blank
import AuthGateway.Telemetry.Metrics
import Mathlib.Data.Nat.Notation
import Mathlib.Tactic.SplitIfs

/-!
# What labels show

A label value is written between quotes, and a reader of the label finds its end at the first quote
that is not escaped.  Values without quotes, backslashes and line ends are written as they are
(`RequestLabels.escape_of_plain`).

Backslashes are written in pairs.  A run of them in front of a quote is rounded down to an even
number, and one in front of any other character, or at the end, is rounded up
(`RequestLabels.escape_quote`, `RequestLabels.escape_other`, `RequestLabels.escape_backslashes`).
So values that only differ in what is lost by rounding look the same, although each of them stood
for itself when it was recorded (`RequestLabels.ShownAlike`), and no others do, whatever follows the
label (`RequestLabels.escape_append_inj`).  Hence labels have the same text exactly when their
statuses and methods agree and their paths are shown alike (`RequestLabels.text_eq_iff`).
-/

namespace AuthGateway.RequestLabels

open Text (append_inj_of_kind)

/-! ### Plain values -/

/-- A text that is shown as it stands inside quotes. -/
def IsPlainText (s : String) : Prop :=
  ∀ c ∈ s.toList, c ≠ '\\' ∧ c ≠ '"' ∧ c ≠ '\n'

instance (s : String) : Decidable (IsPlainText s) :=
  List.decidableBAll _ _

/-- The text of a number is shown as it stands. -/
theorem isPlainText_toString (n : Nat) : IsPlainText (toString n) := by
  intro c hc
  rw [Nat.toString_eq_repr, Nat.toList_repr] at hc
  have hdigit : c.isDigit = true := Nat.isDigit_of_mem_toDigits (by decide) (by decide) hc
  refine ⟨?_, ?_, ?_⟩
  all_goals
    rintro rfl
    exact absurd hdigit (by decide)

/-- The name of a method is shown as it stands. -/
theorem isPlainText_of_isName {s : String} (h : Method.isName s = true) : IsPlainText s := by
  intro c hc
  have hname : Header.isNameChar c = true :=
    List.all_eq_true.1 (Bool.and_eq_true_iff.1 h).2 c hc
  refine ⟨?_, ?_, ?_⟩
  all_goals
    rintro rfl
    exact absurd hname (by decide)

/-- A number is known from its digits. -/
theorem toDigits_injective {m n : Nat} (h : Nat.toDigits 10 m = Nat.toDigits 10 n) : m = n := by
  rw [← Nat.ofDigitChars_ten_toDigits (n := m), h, Nat.ofDigitChars_ten_toDigits]

theorem escape_of_plain {s : List Char} (h : ∀ c ∈ s, c ≠ '\\' ∧ c ≠ '"' ∧ c ≠ '\n') :
    escape false s = s := by
  induction s with
  | nil => rfl
  | cons c s ih =>
    obtain ⟨hbackslash, hquote, hline⟩ := h c List.mem_cons_self
    rw [escape, if_neg hline, if_neg hquote, if_neg hbackslash,
      ih fun d hd => h d (List.mem_cons_of_mem c hd)]
    rfl

/-! ### Runs of backslashes -/

/-- Some backslashes in a row. -/
def backslashes (n : ℕ) : List Char :=
  List.replicate n '\\'

/-- A text on one line, taken apart behind its runs of backslashes. -/
inductive HasRuns : List Char → Prop where
  | last (m : ℕ) : HasRuns (backslashes m)
  | quote (m : ℕ) {s : List Char} (h : HasRuns s) : HasRuns (backslashes m ++ '"' :: s)
  | other (m : ℕ) {c : Char} {s : List Char} (hc : c ≠ '\\' ∧ c ≠ '"' ∧ c ≠ '\n')
    (h : HasRuns s) : HasRuns (backslashes m ++ c :: s)

/-- Two texts that only differ in the lengths of runs of backslashes, and in these no more than what
is lost when a run in front of a quote is rounded down to an even number, and any other run up. -/
inductive ShownAlike : List Char → List Char → Prop where
  | last {m n : ℕ} (hpairs : (m + 1) / 2 = (n + 1) / 2) :
    ShownAlike (backslashes m) (backslashes n)
  | quote {m n : ℕ} {s t : List Char} (hpairs : m / 2 = n / 2) (hrest : ShownAlike s t) :
    ShownAlike (backslashes m ++ '"' :: s) (backslashes n ++ '"' :: t)
  | other {m n : ℕ} {c : Char} {s t : List Char} (hc : c ≠ '\\' ∧ c ≠ '"' ∧ c ≠ '\n')
    (hpairs : (m + 1) / 2 = (n + 1) / 2) (hrest : ShownAlike s t) :
    ShownAlike (backslashes m ++ c :: s) (backslashes n ++ c :: t)

/-- Every text on one line can be taken apart in this way. -/
theorem hasRuns_of_notMem {s : List Char} (h : '\n' ∉ s) : HasRuns s := by
  induction s with
  | nil => exact .last 0
  | cons c s ih =>
    rw [List.mem_cons, not_or] at h
    have hs := ih h.2
    by_cases hquote : c = '"'
    · rw [hquote]
      exact .quote 0 hs
    by_cases hbackslash : c = '\\'
    · -- one more backslash in the first run
      rw [hbackslash]
      cases hs with
      | last m => exact .last (m + 1)
      | quote m hs => exact .quote (m + 1) hs
      | other m hc hs => exact .other (m + 1) hc hs
    · exact .other 0 ⟨hbackslash, hquote, Ne.symm h.1⟩ hs

/-- Pairs of backslashes are written as they are, and a single one behind them is pending. -/
theorem escape_backslashes_append (m : ℕ) (rest : List Char) :
    escape false (backslashes m ++ rest)
      = backslashes (2 * (m / 2)) ++ escape (m % 2 = 1) rest := by
  induction m using Nat.twoStepInduction with
  | zero => rfl
  | one => rfl
  | more m ih _ =>
    have hhalf : 2 * ((m + 2) / 2) = 2 * (m / 2) + 2 := by omega
    have hparity : (m + 2) % 2 = m % 2 := by omega
    have hpair (n : ℕ) : backslashes (n + 2) = '\\' :: '\\' :: backslashes n := rfl
    have hstep (s : List Char) :
        escape false ('\\' :: '\\' :: s) = '\\' :: '\\' :: escape false s :=
      rfl
    rw [hhalf, hparity, hpair, hpair, List.cons_append, List.cons_append, hstep, ih]
    rfl

/-- Pairs of backslashes, with or without a single one behind them. -/
theorem backslashes_append_append (m n : ℕ) (rest : List Char) :
    backslashes m ++ (backslashes n ++ rest) = backslashes (m + n) ++ rest := by
  unfold backslashes
  rw [← List.append_assoc, List.replicate_append_replicate]

/-- In front of a quote a single backslash is lost in the one that escapes the quote. -/
theorem escape_quote (m : ℕ) (s : List Char) :
    escape false (backslashes m ++ '"' :: s)
      = backslashes (2 * (m / 2) + 1) ++ '"' :: escape false s := by
  have hquote (pending : Bool) :
      escape pending ('"' :: s) = backslashes 1 ++ '"' :: escape false s := by
    rw [escape, if_neg (by decide), if_pos rfl]
    rfl
  rw [escape_backslashes_append, hquote, backslashes_append_append]

/-- In front of any other character a single backslash becomes a pair. -/
theorem escape_other (m : ℕ) {c : Char} (hc : c ≠ '\\' ∧ c ≠ '"' ∧ c ≠ '\n') (s : List Char) :
    escape false (backslashes m ++ c :: s)
      = backslashes (2 * ((m + 1) / 2)) ++ c :: escape false s := by
  obtain ⟨hbackslash, hquote, hline⟩ := hc
  have hplain : escape (m % 2 = 1) (c :: s) = backslashes (2 * (m % 2)) ++ c :: escape false s := by
    rw [escape, if_neg hline, if_neg hquote, if_neg hbackslash]
    rcases Nat.mod_two_eq_zero_or_one m with hm | hm
    · rw [hm]
      rfl
    · rw [hm]
      rfl
  have hpairs : 2 * (m / 2) + 2 * (m % 2) = 2 * ((m + 1) / 2) := by omega
  rw [escape_backslashes_append, hplain, backslashes_append_append, hpairs]

/-- At the end as well. -/
theorem escape_backslashes (m : ℕ) :
    escape false (backslashes m) = backslashes (2 * ((m + 1) / 2)) := by
  have hend : escape (m % 2 = 1) [] = backslashes (2 * (m % 2)) ++ [] := by
    rcases Nat.mod_two_eq_zero_or_one m with hm | hm
    · rw [hm]
      rfl
    · rw [hm]
      rfl
  have hpairs : 2 * (m / 2) + 2 * (m % 2) = 2 * ((m + 1) / 2) := by omega
  have hescape := escape_backslashes_append m []
  rw [hend, backslashes_append_append, hpairs, List.append_nil, List.append_nil] at hescape
  exact hescape

/-- A run of backslashes ends at the next character. -/
theorem backslashes_append_inj {m n : ℕ} {c d : Char} {s t : List Char} (hc : c ≠ '\\')
    (hd : d ≠ '\\') (h : backslashes m ++ c :: s = backslashes n ++ d :: t) :
    m = n ∧ c = d ∧ s = t := by
  have hrun (n : ℕ) : ∀ c ∈ backslashes n, (c == '\\') = true :=
    fun c hc => beq_iff_eq.2 (List.eq_of_mem_replicate hc)
  have hstop {c : Char} {s : List Char} (hc : c ≠ '\\') :
      ∀ d, (c :: s).head? = some d → (d == '\\') = false := by
    intro d hd
    rw [← Option.some.inj hd]
    exact beq_eq_false_iff_ne.2 hc
  obtain ⟨hruns, hrest⟩ := append_inj_of_kind (hrun m) (hstop hc) (hrun n) (hstop hd) h
  have hlength := congrArg List.length hruns
  unfold backslashes at hlength
  rw [List.length_replicate, List.length_replicate] at hlength
  exact ⟨hlength, List.cons.inj hrest⟩

/-! ### Values that look the same -/

/-- Texts that are shown alike are written in the same way. -/
theorem ShownAlike.escape_eq {s t : List Char} (h : ShownAlike s t) :
    escape false s = escape false t := by
  induction h with
  | last hpairs => rw [escape_backslashes, escape_backslashes, hpairs]
  | quote hpairs _ ih => rw [escape_quote, escape_quote, hpairs, ih]
  | other hc hpairs _ ih => rw [escape_other _ hc, escape_other _ hc, hpairs, ih]

/-- A value that is written between quotes is known from what is written, but for what is shown
alike, and so is what follows. -/
theorem escape_append_inj {s t x y : List Char} (hs : HasRuns s) (ht : HasRuns t)
    (h : escape false s ++ '"' :: x = escape false t ++ '"' :: y) : ShownAlike s t ∧ x = y := by
  have hquote : '"' ≠ '\\' := by decide
  -- the quote that ends a value stands behind an even number of backslashes, as does a character
  -- that is not escaped, and a quote in a value behind an odd number
  induction hs generalizing t with
  | last m =>
    rw [escape_backslashes] at h
    cases ht with
    | last n =>
      rw [escape_backslashes] at h
      obtain ⟨hruns, -, hrest⟩ := backslashes_append_inj hquote hquote h
      exact ⟨.last (by omega), hrest⟩
    | quote n ht =>
      rw [escape_quote, List.append_assoc, List.cons_append] at h
      obtain ⟨hruns, -, -⟩ := backslashes_append_inj hquote hquote h
      omega
    | other n hc ht =>
      rw [escape_other n hc, List.append_assoc, List.cons_append] at h
      obtain ⟨-, hchar, -⟩ := backslashes_append_inj hquote hc.1 h
      exact absurd hchar.symm hc.2.1
  | quote m hs ih =>
    rw [escape_quote, List.append_assoc, List.cons_append] at h
    cases ht with
    | last n =>
      rw [escape_backslashes] at h
      obtain ⟨hruns, -, -⟩ := backslashes_append_inj hquote hquote h
      omega
    | quote n ht =>
      rw [escape_quote, List.append_assoc, List.cons_append] at h
      obtain ⟨hruns, -, hrest⟩ := backslashes_append_inj hquote hquote h
      obtain ⟨halike, hbehind⟩ := ih ht hrest
      exact ⟨.quote (by omega) halike, hbehind⟩
    | other n hc ht =>
      rw [escape_other n hc, List.append_assoc, List.cons_append] at h
      obtain ⟨-, hchar, -⟩ := backslashes_append_inj hquote hc.1 h
      exact absurd hchar.symm hc.2.1
  | other m hc hs ih =>
    rw [escape_other m hc, List.append_assoc, List.cons_append] at h
    cases ht with
    | last n =>
      rw [escape_backslashes] at h
      obtain ⟨-, hchar, -⟩ := backslashes_append_inj hc.1 hquote h
      exact absurd hchar hc.2.1
    | quote n ht =>
      rw [escape_quote, List.append_assoc, List.cons_append] at h
      obtain ⟨-, hchar, -⟩ := backslashes_append_inj hc.1 hquote h
      exact absurd hchar hc.2.1
    | other n hd ht =>
      rw [escape_other n hd, List.append_assoc, List.cons_append] at h
      obtain ⟨hruns, rfl, hrest⟩ := backslashes_append_inj hc.1 hd.1 h
      obtain ⟨halike, hbehind⟩ := ih ht hrest
      exact ⟨.other hc (by omega) halike, hbehind⟩

/-- Plain texts that are shown alike are the same. -/
theorem ShownAlike.eq_of_isPlainText {s t : String} (h : ShownAlike s.toList t.toList)
    (hs : IsPlainText s) (ht : IsPlainText t) : s = t := by
  have hescape := h.escape_eq
  rw [escape_of_plain hs, escape_of_plain ht] at hescape
  exact String.toList_injective hescape

/-! ### Labels -/

/-- A plain text is on one line. -/
theorem IsPlainText.notMem {s : String} (h : IsPlainText s) : '\n' ∉ s.toList :=
  fun hmem => (h _ hmem).2.2 rfl

/-- Labels with the same name show their values, and what follows is known from them. -/
theorem label_append_inj {name value value' : String} (h : '\n' ∉ value.toList)
    (h' : '\n' ∉ value'.toList) {rest rest' : List Char}
    (heq : label name value ++ rest = label name value' ++ rest') :
    ShownAlike value.toList value'.toList ∧ rest = rest' := by
  have hlabel (value : String) (rest : List Char) : label name value ++ rest
      = name.toList ++ '=' :: '"' :: (escape false value.toList ++ '"' :: rest) := by
    unfold label
    simp only [List.append_assoc, List.cons_append, List.nil_append]
  rw [hlabel, hlabel, List.append_right_inj, List.cons_inj_right, List.cons_inj_right] at heq
  exact escape_append_inj (hasRuns_of_notMem h) (hasRuns_of_notMem h') heq

/-- Labels with plain methods and with paths on one line have the same text exactly when their
statuses and methods agree and their paths are shown alike. -/
theorem text_eq_iff {l l' : RequestLabels} (hpath : '\n' ∉ l.path.toList)
    (hpath' : '\n' ∉ l'.path.toList) (hmethod : IsPlainText l.method)
    (hmethod' : IsPlainText l'.method) : l.text = l'.text
      ↔ l.status = l'.status ∧ ShownAlike l.path.toList l'.path.toList ∧ l.method = l'.method := by
  constructor
  · intro heq
    have htext (k : RequestLabels) : k.text = label "status" (toString k.status) ++
        (',' :: (label "path" k.path ++ (',' :: (label "method" k.method ++ [])))) := by
      unfold text
      rw [List.append_nil]
      simp only [List.intercalate_cons_cons, List.intercalate_singleton, List.append_assoc]
      rfl
    have hplain (n : ℕ) := isPlainText_toString n
    rw [htext, htext] at heq
    obtain ⟨hstatus, heq⟩ := label_append_inj (hplain _).notMem (hplain _).notMem heq
    obtain ⟨halike, heq⟩ := label_append_inj hpath hpath' (List.cons.inj heq).2
    obtain ⟨hmethods, -⟩ :=
      label_append_inj hmethod.notMem hmethod'.notMem (List.cons.inj heq).2
    have hdigits := congrArg String.toList (hstatus.eq_of_isPlainText (hplain _) (hplain _))
    rw [Nat.toString_eq_repr, Nat.toString_eq_repr, Nat.toList_repr, Nat.toList_repr] at hdigits
    exact ⟨toDigits_injective hdigits, halike, hmethods.eq_of_isPlainText hmethod hmethod'⟩
  · rintro ⟨hstatus, halike, hmethods⟩
    unfold text label
    rw [hstatus, halike.escape_eq, hmethods]

/-! ### Plain labels -/

/-- Labels that are shown as they stand. -/
structure IsPlain (l : RequestLabels) : Prop where
  path : IsPlainText l.path
  method : IsPlainText l.method

/-- The text of plain labels tells them apart. -/
theorem text_injective {l l' : RequestLabels} (h : l.IsPlain) (h' : l'.IsPlain)
    (heq : l.text = l'.text) : l = l' := by
  obtain ⟨hstatus, halike, hmethod⟩ :=
    (text_eq_iff h.path.notMem h'.path.notMem h.method h'.method).1 heq
  obtain ⟨status, path, method⟩ := l
  obtain ⟨status', path', method'⟩ := l'
  rw [mk.injEq]
  exact ⟨hstatus, halike.eq_of_isPlainText h.path h'.path, hmethod⟩

end AuthGateway.RequestLabels
