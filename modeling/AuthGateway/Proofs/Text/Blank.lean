import AuthGateway.Text.Basic
import Mathlib.Data.List.DropRight

/-!
# Trimming and words

What trimming leaves of a text is its core: the text is the core with characters of one kind around
it, and the core neither begins nor ends with such a character (`trimWhere_eq_iff`).  What stands
around a text in this way does not matter (`trimWhere_around`).  What a text begins with, of
characters of one kind, is known from it (`append_inj_of_kind`).

A blank cuts a text into two that have their words apart (`words_append_blank`), and all else about
words follows from that: a text without words is blank throughout (`words_eq_nil_iff`), and the
first word is what stands between leading blanks and the next blank or the end
(`words_eq_cons_iff`).
-/

namespace AuthGateway.Text

variable {p q : Char → Bool} {s core front back word : List Char}

/-! ### Trimming -/

/-- Whether a text neither begins nor ends with a character of some kind. -/
structure IsBare (p : Char → Bool) (s : List Char) : Prop where
  head : ∀ c, s.head? = some c → p c = false
  last : ∀ c, s.getLast? = some c → p c = false

/-- Whether a text is another one with characters of some kind around it, which itself neither
begins nor ends with such a character. -/
structure IsCore (p : Char → Bool) (core s : List Char) : Prop where
  around : ∃ front back, s = front ++ core ++ back
    ∧ (∀ c ∈ front, p c = true) ∧ (∀ c ∈ back, p c = true)
  bare : IsBare p core

theorem IsBare.mono (h : IsBare p s) (hpq : ∀ c, p c = false → q c = false) : IsBare q s :=
  ⟨fun c hc => hpq c (h.head c hc), fun c hc => hpq c (h.last c hc)⟩

/-- Characters of other kinds at the ends make no difference. -/
theorem IsBare.append (h : IsBare p s) (hfront : ∀ c ∈ front, p c = false)
    (hback : ∀ c ∈ back, p c = false) (hne : s ≠ []) : IsBare p (front ++ s ++ back) := by
  constructor
  · intro c hc
    rw [List.append_assoc, List.head?_append, List.head?_append_of_ne_nil s hne,
      Option.or_eq_some_iff] at hc
    rcases hc with hc | ⟨-, hc⟩
    · exact hfront c (List.mem_of_mem_head? hc)
    · exact h.head c hc
  · intro c hc
    rw [List.getLast?_append, List.getLast?_append_of_ne_nil _ hne, Option.or_eq_some_iff] at hc
    rcases hc with hc | ⟨-, hc⟩
    · exact hback c (List.mem_of_getLast? hc)
    · exact h.last c hc

/-- Trimming leaves a text alone that neither begins nor ends with such a character. -/
theorem trimWhere_eq_self (h : IsBare p s) : trimWhere p s = s := by
  have hdrop {l : List Char} (hl : ∀ c, l.head? = some c → p c = false) : l.dropWhile p = l := by
    cases l with
    | nil => rfl
    | cons c l => exact List.dropWhile_cons_of_neg (by rw [hl c rfl]; exact Bool.false_ne_true)
  unfold trimWhere
  rw [hdrop h.head, hdrop (by rw [List.head?_reverse]; exact h.last), List.reverse_reverse]

/-- What stands around a text does not matter where all of it is trimmed. -/
theorem trimWhere_around (hfront : ∀ c ∈ front, p c = true) (hback : ∀ c ∈ back, p c = true)
    (s : List Char) : trimWhere p (front ++ s ++ back) = trimWhere p s := by
  unfold trimWhere
  rw [List.append_assoc, List.dropWhile_append_of_pos hfront]
  by_cases hs : ∀ c ∈ s, p c = true
  · rw [List.dropWhile_append_of_pos hs, List.dropWhile_eq_nil_iff.2 hs,
      List.dropWhile_eq_nil_iff.2 hback]
  · have hne : s.dropWhile p ≠ [] := fun h => hs (List.dropWhile_eq_nil_iff.1 h)
    rw [List.dropWhile_append, if_neg (by simpa using hne), List.reverse_append,
      List.dropWhile_append_of_pos fun c hc => hback c (List.mem_reverse.1 hc)]

/-- Trimming leaves the core. -/
theorem trimWhere_eq_iff : trimWhere p s = core ↔ IsCore p core s := by
  constructor
  · rintro rfl
    refine ⟨⟨s.takeWhile p, (s.dropWhile p).rtakeWhile p, ?_, ?_, ?_⟩, ⟨?_, ?_⟩⟩
    · show s = _ ++ (s.dropWhile p).rdropWhile p ++ _
      rw [List.append_assoc, List.rdropWhile_append_rtakeWhile, List.takeWhile_append_dropWhile]
    · exact fun c hc => List.mem_takeWhile_imp hc
    · exact fun c hc => List.mem_rtakeWhile_imp hc
    · -- what is left on the right begins as it did before
      intro c hc
      obtain ⟨rest, hrest⟩ := List.rdropWhile_prefix p (s.dropWhile p)
      have hhead : (s.dropWhile p).head? = some c := by
        rw [← hrest, List.head?_append]
        exact Option.or_eq_some_iff.2 (Or.inl hc)
      have hstop := List.head?_dropWhile_not p s
      rw [hhead] at hstop
      exact hstop
    · intro c (hc : ((s.dropWhile p).rdropWhile p).getLast? = some c)
      have hne : (s.dropWhile p).rdropWhile p ≠ [] := by
        intro hnil
        rw [hnil] at hc
        exact absurd hc (by simp)
      rw [List.getLast?_eq_some_getLast hne, Option.some_inj] at hc
      rw [← hc, ← Bool.not_eq_true]
      exact List.rdropWhile_last_not p _ hne
  · rintro ⟨⟨front, back, rfl, hfront, hback⟩, hbare⟩
    rw [trimWhere_around hfront hback, trimWhere_eq_self hbare]

theorem isBare_of_trimWhere (h : trimWhere p s = s) : IsBare p s :=
  (trimWhere_eq_iff.1 h).bare

theorem trim_eq_iff : trim s = core ↔ IsCore isBlank core s :=
  trimWhere_eq_iff

/-- There is one core between blanks. -/
theorem exists_isCore_iff {P : List Char → Prop} :
    (∃ core, IsCore isBlank core s ∧ P core) ↔ P (trim s) := by
  constructor
  · rintro ⟨core, hcore, h⟩
    rwa [trim_eq_iff.2 hcore]
  · exact fun h => ⟨trim s, trim_eq_iff.1 rfl, h⟩

/-- Nothing is left of a text just where all of it is blank. -/
theorem trim_eq_nil_iff : trim s = [] ↔ ∀ c ∈ s, isBlank c = true := by
  rw [trim_eq_iff]
  constructor
  · rintro ⟨⟨front, back, rfl, hfront, hback⟩, -⟩ c hc
    rw [List.append_nil, List.mem_append] at hc
    exact hc.elim (hfront c) (hback c)
  · intro hs
    exact ⟨⟨s, [], by simp, hs, List.forall_mem_nil _⟩, ⟨by simp, by simp⟩⟩

/-! ### Leading characters of one kind -/

/-- A text that begins with some characters of one kind and does not go on with one more is cut
behind them in one way. -/
theorem append_inj_of_kind {rest front' rest' : List Char} (hfront : ∀ c ∈ front, p c = true)
    (hrest : ∀ c, rest.head? = some c → p c = false) (hfront' : ∀ c ∈ front', p c = true)
    (hrest' : ∀ c, rest'.head? = some c → p c = false) (h : front ++ rest = front' ++ rest') :
    front = front' ∧ rest = rest' := by
  have hstop {l : List Char} (hl : ∀ c, l.head? = some c → p c = false) : l.takeWhile p = [] := by
    cases l with
    | nil => rfl
    | cons c l => exact List.takeWhile_cons_of_neg (by rw [hl c rfl]; exact Bool.false_ne_true)
  have hcut := congrArg (List.takeWhile p) h
  rw [List.takeWhile_append_of_pos hfront, List.takeWhile_append_of_pos hfront', hstop hrest,
    hstop hrest', List.append_nil, List.append_nil] at hcut
  refine ⟨hcut, ?_⟩
  rw [hcut, List.append_right_inj] at h
  exact h

/-! ### Words -/

/-- A blank between two texts keeps their words apart. -/
theorem words_append_blank {c : Char} (hc : isBlank c = true) (s t : List Char) :
    words (s ++ c :: t) = words s ++ words t := by
  unfold words
  rw [List.splitOnP_append_cons s t hc, List.filter_append]

theorem words_nil : words [] = [] := by
  unfold words
  rw [List.splitOnP_nil]
  rfl

/-- A leading blank belongs to no word. -/
theorem words_cons_of_blank {c : Char} (hc : isBlank c = true) (s : List Char) :
    words (c :: s) = words s := by
  have hcons := words_append_blank hc [] s
  rw [words_nil, List.nil_append, List.nil_append] at hcons
  exact hcons

/-- Nor do any number of them. -/
theorem words_append_of_blank (hfront : ∀ c ∈ front, isBlank c = true) (s : List Char) :
    words (front ++ s) = words s := by
  induction front with
  | nil => rfl
  | cons c front ih =>
    rw [List.cons_append, words_cons_of_blank (hfront c List.mem_cons_self)]
    exact ih fun d hd => hfront d (List.mem_cons_of_mem c hd)

/-- A text without blanks is one word. -/
theorem words_of_not_blank (hne : word ≠ []) (hword : ∀ c ∈ word, isBlank c = false) :
    words word = [word] := by
  unfold words
  rw [List.splitOnP_eq_singleton hword, List.filter_cons_of_pos (by simpa using hne),
    List.filter_nil]

/-- A word ends at the next blank. -/
theorem words_append_word (hne : word ≠ []) (hword : ∀ c ∈ word, isBlank c = false)
    (hback : ∀ c, back.head? = some c → isBlank c = true) :
    words (word ++ back) = word :: words back := by
  cases back with
  | nil => rw [List.append_nil, words_of_not_blank hne hword, words_nil]
  | cons c back =>
    have hc := hback c rfl
    rw [words_append_blank hc, words_of_not_blank hne hword, words_cons_of_blank hc,
      List.singleton_append]

/-- The first word stands between leading blanks and the next blank, or the end. -/
theorem exists_first_word (hs : ∃ c ∈ s, isBlank c = false) :
    ∃ front word back, s = front ++ word ++ back ∧ (∀ c ∈ front, isBlank c = true) ∧ word ≠ []
      ∧ (∀ c ∈ word, isBlank c = false) ∧ (∀ c, back.head? = some c → isBlank c = true) := by
  set rest := s.dropWhile isBlank with hrest
  refine ⟨s.takeWhile isBlank, rest.takeWhile (!isBlank ·), rest.dropWhile (!isBlank ·), ?_, ?_, ?_,
    ?_, ?_⟩
  · rw [List.append_assoc, List.takeWhile_append_dropWhile, hrest,
      List.takeWhile_append_dropWhile]
  · exact fun c hc => List.mem_takeWhile_imp hc
  · have hne : rest ≠ [] := by
      obtain ⟨c, hc, hvisible⟩ := hs
      intro hnil
      rw [List.dropWhile_eq_nil_iff.1 hnil c hc] at hvisible
      exact absurd hvisible (by decide)
    obtain ⟨c, tail, hcons⟩ := List.exists_cons_of_ne_nil hne
    have hc := List.head?_dropWhile_not isBlank s
    rw [← hrest, hcons] at hc
    have hc' : isBlank c = false := hc
    -- what the leading blanks leave does not begin with a blank, so the word holds a character
    rw [hcons, List.takeWhile_cons_of_pos (by rw [hc']; rfl)]
    exact List.cons_ne_nil _ _
  · intro c hc
    have hvisible := List.mem_takeWhile_imp hc
    simpa using hvisible
  · intro c hc
    have hstop := List.head?_dropWhile_not (!isBlank ·) rest
    rw [hc] at hstop
    simpa using hstop

/-- There are no words in a text that is blank throughout, and in no other. -/
theorem words_eq_nil_iff : words s = [] ↔ ∀ c ∈ s, isBlank c = true := by
  constructor
  · intro hnil
    by_contra hs
    simp only [not_forall, Bool.not_eq_true, exists_prop] at hs
    obtain ⟨front, word, back, rfl, hfront, hne, hword, hback⟩ := exists_first_word hs
    rw [List.append_assoc, words_append_of_blank hfront, words_append_word hne hword hback] at hnil
    exact absurd hnil (List.cons_ne_nil _ _)
  · intro hs
    have hwords := words_append_of_blank hs []
    rw [List.append_nil, words_nil] at hwords
    exact hwords

/-- The words of a text are the first one and those of what stands behind it. -/
theorem words_eq_cons_iff {rest : List (List Char)} :
    words s = word :: rest ↔ ∃ front back, s = front ++ word ++ back
      ∧ (∀ c ∈ front, isBlank c = true) ∧ word ≠ [] ∧ (∀ c ∈ word, isBlank c = false)
      ∧ (∀ c, back.head? = some c → isBlank c = true) ∧ words back = rest := by
  constructor
  · intro h
    have hs : ∃ c ∈ s, isBlank c = false := by
      by_contra hblank
      simp only [not_exists, not_and, Bool.not_eq_false] at hblank
      rw [words_eq_nil_iff.2 hblank] at h
      exact absurd h (by simp)
    obtain ⟨front, first, back, rfl, hfront, hne, hfirst, hback⟩ := exists_first_word hs
    rw [List.append_assoc, words_append_of_blank hfront, words_append_word hne hfirst hback] at h
    obtain ⟨rfl, hrest⟩ := List.cons.inj h
    exact ⟨front, back, rfl, hfront, hne, hfirst, hback, hrest⟩
  · rintro ⟨front, back, rfl, hfront, hne, hword, hback, rfl⟩
    rw [List.append_assoc, words_append_of_blank hfront, words_append_word hne hword hback]

end AuthGateway.Text
