import AuthGateway.Proofs.Text.Blank
import AuthGateway.Token.Bearer

/-!
# What an `Authorization` value offers

A value offers a token when it is the scheme, in any letter case, and the token, with blanks between
the two and around them (`IsBearer`): then its words are these two (`isBearer_iff_words`).  Reading
finds just these tokens (`read_eq_token_iff`), and finds nothing in a value that is blank throughout
(`read_eq_nothing_iff`).

A value can be taken apart into the scheme and a token in one way only (`IsMadeOf.unique`), as each
part ends where characters of the other kind begin.  So reading recognises exactly the values that
can be taken apart, and finds the token that stands in them (`read_exact`).
-/

namespace AuthGateway.Bearer

open Text

variable {value token : List Char}

/-- Whether a value is the scheme and a token: between optional blanks, the word `Bearer` in any
letter case, at least one blank, and a token without blanks. -/
structure IsBearer (value token : List Char) : Prop where
  shape : ∃ front word gap back, value = front ++ word ++ gap ++ token ++ back
    ∧ (∀ c ∈ front, isBlank c = true) ∧ lower word = "bearer".toList
    ∧ gap ≠ [] ∧ (∀ c ∈ gap, isBlank c = true) ∧ (∀ c ∈ back, isBlank c = true)
  ne_nil : token ≠ []
  not_blank : ∀ c ∈ token, isBlank c = false

/-- A word is the scheme when its letters are, whatever their case. -/
theorem eqIgnoringCase_scheme_iff {word : List Char} :
    eqIgnoringCase word scheme = true ↔ lower word = "bearer".toList := by
  have hscheme : lower scheme = "bearer".toList := by decide
  rw [eqIgnoringCase, beq_iff_eq, hscheme]

/-- A blank has no letter case. -/
theorem toLower_of_isBlank {c : Char} (h : isBlank c = true) : c.toLower = c := by
  unfold Char.toLower
  split_ifs with hletter
  · obtain ⟨hlow, hhigh⟩ := hletter
    have hlow' : 0x41 ≤ c.toNat := UInt32.le_iff_toNat_le.1 hlow
    have hhigh' : c.toNat ≤ 0x5A := UInt32.le_iff_toNat_le.1 hhigh
    simp only [isBlank, Bool.or_eq_true, Bool.and_eq_true, decide_eq_true_eq, beq_iff_eq] at h
    omega
  · rfl

/-- The scheme is a word, whatever the case of its letters. -/
theorem ne_nil_and_not_blank_of_lower {word : List Char} (h : lower word = "bearer".toList) :
    word ≠ [] ∧ ∀ c ∈ word, isBlank c = false := by
  have hletters : "bearer".toList.all (fun c => !isBlank c) = true := by decide
  constructor
  · rintro rfl
    exact absurd h (by decide)
  · intro c hc
    have hlower : c.toLower ∈ "bearer".toList := by
      rw [← h]
      exact List.mem_map_of_mem hc
    by_contra hblank
    rw [Bool.not_eq_false] at hblank
    have hvisible := List.all_eq_true.1 hletters c.toLower hlower
    rw [toLower_of_isBlank hblank, hblank] at hvisible
    exact absurd hvisible (by decide)

/-- A value that offers a token has two words, the scheme and the token. -/
theorem isBearer_iff_words :
    IsBearer value token
      ↔ ∃ word, words value = [word, token] ∧ lower word = "bearer".toList := by
  constructor
  · rintro ⟨⟨front, word, gap, back, rfl, hfront, hword, hgap, hgapBlank, hback⟩, hne, htoken⟩
    obtain ⟨hwordNe, hwordVisible⟩ := ne_nil_and_not_blank_of_lower hword
    have hafterWord : ∀ c, (gap ++ (token ++ back)).head? = some c → isBlank c = true := by
      intro c hc
      rw [List.head?_append_of_ne_nil gap hgap] at hc
      exact hgapBlank c (List.mem_of_mem_head? hc)
    have hafterToken : ∀ c, back.head? = some c → isBlank c = true :=
      fun c hc => hback c (List.mem_of_mem_head? hc)
    refine ⟨word, ?_, hword⟩
    rw [List.append_assoc, List.append_assoc, List.append_assoc, words_append_of_blank hfront,
      words_append_word hwordNe hwordVisible hafterWord, words_append_of_blank hgapBlank,
      words_append_word hne htoken hafterToken, words_eq_nil_iff.2 hback]
  · rintro ⟨word, hwords, hword⟩
    obtain ⟨front, rest, rfl, hfront, -, -, hrest, hwords⟩ := words_eq_cons_iff.1 hwords
    obtain ⟨gap, back, rfl, hgap, hne, htoken, -, hwords⟩ := words_eq_cons_iff.1 hwords
    refine ⟨⟨front, word, gap, back, by simp, hfront, hword, ?_, hgap, words_eq_nil_iff.1 hwords⟩,
      hne, htoken⟩
    -- without a blank in front of it, the token would belong to the first word
    rintro rfl
    obtain ⟨c, tail, rfl⟩ := List.exists_cons_of_ne_nil hne
    have hc := htoken c List.mem_cons_self
    rw [hrest c rfl] at hc
    exact absurd hc (by decide)

/-- Nothing is found in a value that is blank throughout. -/
theorem read_eq_nothing_iff : read value = .nothing ↔ ∀ c ∈ value, isBlank c = true := by
  rw [← words_eq_nil_iff, read]
  split
  · rename_i hwords
    simp [hwords]
  · rename_i word token hwords
    split_ifs <;> simp [hwords]
  · rename_i hnil _
    simp only [reduceCtorEq, false_iff]
    exact hnil

/-- The token that is found is the one that the value offers. -/
theorem read_eq_token_iff {t : String} : read value = .token t ↔ IsBearer value t.toList := by
  rw [isBearer_iff_words, read]
  split
  · rename_i hwords
    simp [hwords]
  · rename_i word token hwords
    rw [hwords]
    constructor
    · intro h
      split_ifs at h with hscheme
      obtain rfl := Offer.token.inj h
      rw [String.toList_ofList]
      exact ⟨word, rfl, eqIgnoringCase_scheme_iff.1 hscheme⟩
    · rintro ⟨word', hwords', hword'⟩
      obtain ⟨rfl, htoken⟩ := List.cons.inj hwords'
      rw [if_pos (eqIgnoringCase_scheme_iff.2 hword'), (List.cons.inj htoken).1,
        String.ofList_toList]
  · rename_i hpair
    simp only [reduceCtorEq, false_iff, not_exists, not_and]
    intro word hwords
    exact absurd hwords (hpair word t.toList)

/-! ### Taking a value apart -/

/-- The parts of a value with a token. -/
structure Parts where
  front : List Char
  word : List Char
  gap : List Char
  token : List Char
  back : List Char
  deriving DecidableEq, Repr

/-- Whether a value is made of such parts: optional blanks, the word `Bearer` in any letter case, at
least one blank, a token that holds no blank and is not empty, and optional blanks. -/
structure IsMadeOf (value : List Char) (parts : Parts) : Prop where
  text : value = parts.front ++ parts.word ++ parts.gap ++ parts.token ++ parts.back
  front : ∀ c ∈ parts.front, isBlank c = true
  word : lower parts.word = "bearer".toList
  gap_ne_nil : parts.gap ≠ []
  gap : ∀ c ∈ parts.gap, isBlank c = true
  token_ne_nil : parts.token ≠ []
  token : ∀ c ∈ parts.token, isBlank c = false
  back : ∀ c ∈ parts.back, isBlank c = true

/-- A value offers a token when it can be taken apart around it. -/
theorem isBearer_iff_isMadeOf :
    IsBearer value token ↔ ∃ parts, IsMadeOf value parts ∧ parts.token = token := by
  constructor
  · rintro ⟨⟨front, word, gap, back, htext, hfront, hword, hne, hgap, hback⟩, htokenNe, htoken⟩
    exact ⟨⟨front, word, gap, token, back⟩,
      ⟨htext, hfront, hword, hne, hgap, htokenNe, htoken, hback⟩, rfl⟩
  · rintro ⟨parts, h, rfl⟩
    exact ⟨⟨parts.front, parts.word, parts.gap, parts.back, h.text, h.front, h.word, h.gap_ne_nil,
      h.gap, h.back⟩, h.token_ne_nil, h.token⟩

/-- The scheme has six letters. -/
theorem IsMadeOf.length_word {parts : Parts} (h : IsMadeOf value parts) :
    parts.word.length = 6 := by
  have hlength := congrArg List.length h.word
  rw [lower, List.length_map] at hlength
  exact hlength

/-- A value is made of parts in one way only. -/
theorem IsMadeOf.unique {parts parts' : Parts} (h : IsMadeOf value parts)
    (h' : IsMadeOf value parts') : parts = parts' := by
  -- each part but the last ends where the next one begins with a character of the other kind
  have hhead {p : Char → Bool} {s rest : List Char} (hne : s ≠ []) (hs : ∀ c ∈ s, p c = false) :
      ∀ c, (s ++ rest).head? = some c → p c = false := by
    intro c hc
    rw [List.head?_append_of_ne_nil s hne] at hc
    exact hs c (List.mem_of_mem_head? hc)
  have hswap {s : List Char} {b : Bool} (hs : ∀ c ∈ s, isBlank c = b) :
      ∀ c ∈ s, (!isBlank c) = !b := fun c hc => congrArg (!·) (hs c hc)
  have hend {s : List Char} (hs : ∀ c ∈ s, isBlank c = true) :
      ∀ c, s.head? = some c → (!isBlank c) = false :=
    fun c hc => hswap hs c (List.mem_of_mem_head? hc)
  obtain ⟨hne, hword⟩ := ne_nil_and_not_blank_of_lower h.word
  obtain ⟨hne', hword'⟩ := ne_nil_and_not_blank_of_lower h'.word
  have heq := h.text.symm.trans h'.text
  simp only [List.append_assoc] at heq
  obtain ⟨hfront, heq⟩ :=
    append_inj_of_kind h.front (hhead hne hword) h'.front (hhead hne' hword') heq
  obtain ⟨hwords, heq⟩ := append_inj_of_kind (hswap hword)
    (hhead h.gap_ne_nil (hswap h.gap)) (hswap hword') (hhead h'.gap_ne_nil (hswap h'.gap)) heq
  obtain ⟨hgap, heq⟩ := append_inj_of_kind h.gap (hhead h.token_ne_nil h.token) h'.gap
    (hhead h'.token_ne_nil h'.token) heq
  obtain ⟨htoken, hback⟩ := append_inj_of_kind (hswap h.token) (hend h.back) (hswap h'.token)
    (hend h'.back) heq
  obtain ⟨front, word, gap, token, back⟩ := parts
  obtain ⟨front', word', gap', token', back'⟩ := parts'
  rw [Parts.mk.injEq]
  exact ⟨hfront, hwords, hgap, htoken, hback⟩

/-- A token can be offered again, behind the scheme and one blank. -/
theorem IsMadeOf.bearer {parts : Parts} (h : IsMadeOf value parts) :
    IsMadeOf ("Bearer ".toList ++ parts.token) ⟨[], scheme, [' '], parts.token, []⟩ := by
  have hword : lower scheme = "bearer".toList := by decide
  have hgap : isBlank ' ' = true := by decide
  refine ⟨?_, List.forall_mem_nil _, hword, List.cons_ne_nil _ _, List.forall_mem_singleton.2 hgap,
    h.token_ne_nil, h.token, List.forall_mem_nil _⟩
  rw [List.append_nil]
  rfl

/-- Reading is exact.  It finds nothing just in values that are blank throughout, and a token just
in values that are made of the scheme and this token; all other values are malformed.  A value is
made of such parts in one way only, the token stands in it, and behind the scheme and one blank the
same token is found again. -/
theorem read_exact (value : List Char) :
    (read value = .nothing ↔ ∀ c ∈ value, isBlank c = true)
      ∧ (∀ t : String, read value = .token t
        ↔ ∃ parts, IsMadeOf value parts ∧ parts.token = t.toList)
      ∧ (read value = .malformed
        ↔ ¬ (∀ c ∈ value, isBlank c = true) ∧ ¬ ∃ parts, IsMadeOf value parts)
      ∧ (∀ parts, IsMadeOf value parts → parts.word.length = 6
        ∧ ∀ parts', IsMadeOf value parts' → parts = parts')
      ∧ ∀ t : String, read value = .token t →
        t.toList <:+: value ∧ read ("Bearer ".toList ++ t.toList) = .token t := by
  have htoken (value : List Char) (t : String) : read value = .token t
      ↔ ∃ parts, IsMadeOf value parts ∧ parts.token = t.toList := by
    rw [read_eq_token_iff, isBearer_iff_isMadeOf]
  refine ⟨read_eq_nothing_iff, htoken value, ?_, fun parts h => ⟨h.length_word, fun _ => h.unique⟩,
    ?_⟩
  · rw [← read_eq_nothing_iff]
    constructor
    · intro hmalformed
      refine ⟨by rw [hmalformed]; simp, ?_⟩
      rintro ⟨parts, hparts⟩
      have hread := (htoken value (String.ofList parts.token)).2
        ⟨parts, hparts, String.toList_ofList.symm⟩
      rw [hmalformed] at hread
      exact absurd hread (by simp)
    · rintro ⟨hnothing, hparts⟩
      cases hread : read value with
      | nothing => exact absurd hread hnothing
      | malformed => rfl
      | token t =>
        obtain ⟨parts, h, -⟩ := (htoken value t).1 hread
        exact absurd ⟨parts, h⟩ hparts
  · intro t hread
    obtain ⟨parts, h, hparts⟩ := (htoken value t).1 hread
    constructor
    · refine ⟨parts.front ++ parts.word ++ parts.gap, parts.back, ?_⟩
      rw [← hparts, h.text]
    · rw [htoken, ← hparts]
      exact ⟨_, h.bearer, rfl⟩

end AuthGateway.Bearer
