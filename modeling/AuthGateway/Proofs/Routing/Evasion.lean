import AuthGateway.Proofs.Http.Uri
import AuthGateway.Proofs.Routing.Mount
import AuthGateway.Proofs.Text.Blank
import AuthGateway.Settings.Environment

/-!
# Prefixes that are read in two ways

Below a prefix that is not plain there is a path whose route sees another path than the whitelist
does (`Mount.exists_isEvasion`).  Where a segment of the prefix is a capture, the whitelist leaves a
path as it is from which the route has lost the prefix (`Mount.isEvasion_of_head`).  Where a capture
ends the prefix behind some text, the whitelist takes the prefix off in the middle of a segment, and
the route leaves the path as it is (`Mount.isEvasion_of_last`).

Two slashes behind a prefix, plain or not, are two for the whitelist and one for the route
(`Mount.isEvasion_doubled`).
-/

namespace AuthGateway

/-! ### Texts that are read as they stand -/

/-- A text that no blank begins or ends stays as it is. -/
theorem Text.trim_eq_self {c d : Char} (hc : isBlank c = false) (hd : isBlank d = false)
    (s : List Char) : trim (c :: (s ++ [d])) = c :: (s ++ [d]) := by
  refine trimWhere_eq_self ⟨?_, ?_⟩
  · intro first hfirst
    obtain rfl := Option.some.inj hfirst
    exact hc
  · intro last hlast
    rw [← List.cons_append, List.getLast?_concat] at hlast
    obtain rfl := Option.some.inj hlast
    exact hd

/-- A list of one piece. -/
theorem Environment.readList_eq_singleton {s : List Char} (hne : s ≠ []) (hcomma : ',' ∉ s)
    (htrim : Text.trim s = s) : readList s = [s] := by
  rw [readList, if_neg hne, List.splitOn_eq_singleton hcomma, List.map_singleton, htrim]

namespace Mount

variable {asked segments rest : List (List Char)} {s s' : List Char} {webPrefix : String}

/-! ### Segments that a prefix matches -/

/-- Whether a segment of a prefix matches a segment, wherever it stands in the path. -/
def Spells (s s' : List Char) : Prop :=
  match PatternSegment.ofChars s with
  | .literal t => s' = t
  | .capture lead => ∃ tail, tail ≠ [] ∧ s' = lead ++ tail
  | .rest _ => False

theorem spells_self (hstar : '*' ∉ s) : Spells s s := by
  unfold Spells
  rcases PatternSegment.ofChars_cases hstar with hliteral | ⟨lead, name, hs, hcapture⟩
  · rw [hliteral]
  · rw [hcapture]
    exact ⟨':' :: name, List.cons_ne_nil ':' name, hs⟩

/-- A capture goes on behind itself. -/
theorem spells_append (hstar : '*' ∉ s) (hcolon : ':' ∈ s) (tail : List Char) :
    Spells s (s ++ tail) := by
  obtain ⟨lead, name, rfl, hlead⟩ := List.eq_append_cons_of_mem hcolon
  have hlead' : '*' ∉ lead := fun hmem => hstar (List.mem_append_left _ hmem)
  unfold Spells
  rw [PatternSegment.ofChars_append hlead hlead']
  exact ⟨':' :: name ++ tail, by simp, List.append_assoc lead (':' :: name) tail⟩

/-- A capture with no text before it matches everything. -/
theorem spells_of_head (hhead : s.head? = some ':') (hs' : s' ≠ []) : Spells s s' := by
  obtain ⟨name, rfl⟩ := List.head?_eq_some_iff.1 hhead
  unfold Spells
  rw [← List.nil_append (':' :: name),
    PatternSegment.ofChars_append List.not_mem_nil List.not_mem_nil]
  exact ⟨s', hs', rfl⟩

theorem matchesSegments_cons_of_spells (h : Spells s s') (pattern : Pattern)
    (rest : List (List Char)) :
    Pattern.matchesSegments (.ofChars s :: pattern) (s' :: rest)
      = pattern.matchesSegments rest := by
  unfold Spells at h
  split at h
  · rename_i t ht
    rw [ht, h, Pattern.matchesSegments, beq_self_eq_true, Bool.true_and]
  · rename_i lead hlead
    obtain ⟨tail, htail, rfl⟩ := h
    have hgoes : PatternSegment.goesOn lead (lead ++ tail) = true := by
      rw [PatternSegment.goesOn, Text.after?_append_self]
      exact decide_eq_true htail
    have hbegins : Text.beginsWith lead (lead ++ tail) = true := Text.beginsWith_iff.2 ⟨tail, rfl⟩
    rw [hlead, Pattern.matchesSegments, PatternSegment.captures, hgoes, hbegins, ite_self,
      Bool.true_and]
  · exact absurd h id

/-- Segments that the segments of a prefix match are matched by it. -/
theorem matchesSegments_append_of_spells (h : List.Forall₂ Spells asked segments) (more : Pattern)
    (rest : List (List Char)) :
    Pattern.matchesSegments (asked.map .ofChars ++ more) (segments ++ rest)
      = more.matchesSegments rest := by
  induction h with
  | nil => rfl
  | cons hspells _ ih =>
    rw [List.map_cons, List.cons_append, List.cons_append, matchesSegments_cons_of_spells hspells]
    exact ih

/-! ### Prefixes that can be met -/

/-- Whether a router takes a prefix, and requests and rules can spell what lies below it.  A router
takes captures that have a name and are alone in their segments, and nothing that captures all that
is left; rules are cut at commas; and a target may not be too long. -/
structure IsSpellable (webPrefix : String) : Prop where
  chars : ∀ c ∈ webPrefix.toList, Uri.isPathChar c = true ∧ c ≠ ',' ∧ c ≠ '*'
  captures : ∀ s ∈ segmentsOf webPrefix, s.count ':' ≤ 1 ∧ s.getLast? ≠ some ':'
  size : webPrefix.utf8ByteSize + 3 ≤ Uri.maxBytes

/-- Whether requests and rules can spell a segment. -/
def IsSpelled (s : List Char) : Prop :=
  ∀ c ∈ s, Uri.isPathChar c = true ∧ c ≠ ',' ∧ c ≠ '/'

/-- A target and a rule below a prefix with a route: the rule lets the path in, the pattern of the
route below the prefix matches the path, and the rule does not match what the route sees. -/
structure IsEvasion (webPrefix pattern : String) (path rule : List Char) : Prop where
  target : Uri.ofText? (String.ofList path) = some (.relative (String.ofList path) none)
  rules : Environment.readList rule = [rule]
  nonempty : rule ≠ []
  opened : Text.beginsWith rule (effectivePath webPrefix.toList path) = true
  matched : Pattern.admits (Pattern.ofText webPrefix ++ Pattern.ofText pattern) (String.ofList path)
    = true
  seen : Text.beginsWith rule (strip webPrefix (.relative (String.ofList path) none)).path.toList
    = false

/-! ### Targets of segments -/

theorem forall_mem_join {P : Char → Prop} (hslash : P '/')
    (h : ∀ s ∈ segments, ∀ c ∈ s, P c) : ∀ c ∈ join segments, P c := by
  intro c hc
  obtain ⟨s, hs, hc⟩ := List.mem_flatMap.1 hc
  rcases List.mem_cons.1 hc with rfl | hc
  · exact hslash
  · exact h s hs c hc

theorem mem_join {c : Char} (hs : s ∈ segments) (hc : c ∈ s) : c ∈ join segments :=
  List.mem_flatMap.2 ⟨s, hs, List.mem_cons_of_mem '/' hc⟩

theorem isSpelled_singleton {c : Char} (h : Uri.isPathChar c = true ∧ c ≠ ',' ∧ c ≠ '/') :
    IsSpelled [c] := by
  intro d hd
  rw [List.mem_singleton.1 hd]
  exact h

theorem IsSpelled.append (hs : IsSpelled s) (hs' : IsSpelled s') : IsSpelled (s ++ s') :=
  List.forall_mem_append.2 ⟨hs, hs'⟩

theorem IsSpelled.slash_not_mem (h : IsSpelled s) : '/' ∉ s :=
  fun hmem => (h '/' hmem).2.2 rfl

theorem comma_not_mem_join (h : ∀ s ∈ segments, IsSpelled s) : ',' ∉ join segments := by
  have hcomma : ∀ c ∈ join segments, c ≠ ',' :=
    forall_mem_join (by decide) fun s hs c hc => (h s hs c hc).2.1
  exact fun hmem => hcomma ',' hmem rfl

theorem ofText?_join (hne : segments ≠ []) (h : ∀ s ∈ segments, IsSpelled s)
    (hsize : String.utf8Len (join segments) ≤ Uri.maxBytes) :
    Uri.ofText? (String.ofList (join segments))
      = some (.relative (String.ofList (join segments)) none) := by
  have hpath : ∀ c ∈ join segments, Uri.isPathChar c = true :=
    forall_mem_join (by decide) fun s hs c hc => (h s hs c hc).1
  rw [join_eq_cons_intercalate hne] at hsize hpath ⊢
  exact Uri.ofText?_path hpath hsize

theorem segments?_join (hne : segments ≠ []) (hslash : ∀ s ∈ segments, '/' ∉ s) :
    Pattern.segments? (join segments) = some segments :=
  Pattern.segments?_eq_some_iff.2 ⟨rfl, hne, hslash⟩

theorem admits_join (hne : segments ≠ []) (hslash : ∀ s ∈ segments, '/' ∉ s) (p : Pattern) :
    p.admits (String.ofList (join segments)) = p.matchesSegments segments := by
  rw [Pattern.admits, String.toList_ofList, segments?_join hne hslash]
  rfl

/-- What a route sees of a path. -/
theorem strip_join (hstart : webPrefix.toList.head? = some '/') (hne : segments ≠ [])
    (hslash : ∀ s ∈ segments, '/' ∉ s) :
    (strip webPrefix (.relative (String.ofList (join segments)) none)).path.toList
      = ((segmentsAfter? (segmentsOf webPrefix) segments).map pathOf).getD (join segments) := by
  have hpath : (Uri.relative (String.ofList (join segments)) none).path.toList = join segments :=
    String.toList_ofList
  unfold strip
  rw [hpath, pathAfter?_eq_map (segments?_eq_segmentsOf hstart) (segments?_join hne hslash)]
  cases segmentsAfter? (segmentsOf webPrefix) segments with
  | none => exact hpath
  | some rest => exact String.toList_ofList

/-- The segments of a prefix are made of its characters. -/
theorem IsSpellable.forall_mem (hspell : IsSpellable webPrefix)
    (hstart : webPrefix.toList.head? = some '/') (hs : s ∈ segmentsOf webPrefix) :
    '*' ∉ s ∧ IsSpelled s := by
  have hmem : ∀ c ∈ s, c ∈ webPrefix.toList := by
    intro c hc
    rw [← join_segmentsOf hstart]
    exact mem_join hs hc
  refine ⟨fun hstar => (hspell.chars '*' (hmem '*' hstar)).2.2 rfl, fun c hc => ?_⟩
  obtain ⟨hpath, hcomma, -⟩ := hspell.chars c (hmem c hc)
  refine ⟨hpath, hcomma, ?_⟩
  rintro rfl
  exact slash_not_mem_of_mem_segmentsOf hs hc

/-- What makes the text of some segments evade the whitelist. -/
theorem isEvasion_join (hstart : webPrefix.toList.head? = some '/') {pattern : String}
    {rule : List Char} (hne : segments ≠ []) (hspelled : ∀ s ∈ segments, IsSpelled s)
    (hsize : String.utf8Len (join segments) ≤ Uri.maxBytes)
    (hrules : Environment.readList rule = [rule]) (hnonempty : rule ≠ [])
    (hopened : Text.beginsWith rule (effectivePath webPrefix.toList (join segments)) = true)
    (hmatched : Pattern.matchesSegments (Pattern.ofText webPrefix ++ Pattern.ofText pattern)
      segments = true)
    (hseen : Text.beginsWith rule (((segmentsAfter? (segmentsOf webPrefix) segments).map
      pathOf).getD (join segments)) = false) :
    IsEvasion webPrefix pattern (join segments) rule := by
  have hslash : ∀ s ∈ segments, '/' ∉ s := fun s hs => (hspelled s hs).slash_not_mem
  refine ⟨?_, hrules, hnonempty, hopened, ?_, ?_⟩
  · exact ofText?_join hne hspelled hsize
  · rw [admits_join hne hslash]
    exact hmatched
  · rw [strip_join hstart hne hslash]
    exact hseen

/-! ### A capture that is taken off -/

/-- A segment with a capture filled in. -/
def filled (s : List Char) : List Char :=
  if s.head? = some ':' then ['x'] else s

theorem spells_filled (hstar : '*' ∉ s) : Spells s (filled s) := by
  unfold filled
  split_ifs with hhead
  · exact spells_of_head hhead (by decide)
  · exact spells_self hstar

theorem fits_filled (s : List Char) : fits s (filled s) = true := by
  unfold filled
  split_ifs with hhead
  · rw [fits, hhead]
    rfl
  · exact fits_self s

theorem IsSpelled.filled (h : IsSpelled s) : IsSpelled (filled s) := by
  unfold Mount.filled
  split_ifs
  · exact isSpelled_singleton (by decide)
  · exact h

/-- A capture is as long as a colon at least. -/
theorem utf8Len_filled_le (s : List Char) : String.utf8Len (filled s) ≤ String.utf8Len s := by
  unfold filled
  split_ifs with hhead
  · obtain ⟨name, rfl⟩ := List.head?_eq_some_iff.1 hhead
    rw [String.utf8Len_cons, String.utf8Len_cons]
    exact Nat.add_le_add (Nat.zero_le _) (by decide)
  · exact Nat.le_refl _

theorem utf8Len_join_filled_le (asked : List (List Char)) :
    String.utf8Len (join (asked.map filled)) ≤ String.utf8Len (join asked) := by
  induction asked with
  | nil => exact Nat.le_refl _
  | cons s asked ih =>
    have hs := utf8Len_filled_le s
    rw [List.map_cons, join_cons, join_cons, String.utf8Len_cons, String.utf8Len_cons,
      String.utf8Len_append, String.utf8Len_append]
    omega

/-- A prefix with a capture is no text that its paths begin with. -/
theorem after?_join_filled (h : ∃ s ∈ asked, s.head? = some ':') (rest : List (List Char)) :
    Text.after? (join asked) (join (asked.map filled ++ rest)) = none := by
  induction asked with
  | nil =>
    obtain ⟨s, hs, -⟩ := h
    exact absurd hs List.not_mem_nil
  | cons s asked ih =>
    rw [List.map_cons, List.cons_append, filled]
    split_ifs with hhead
    · obtain ⟨name, rfl⟩ := List.head?_eq_some_iff.1 hhead
      rfl
    · have hlater : ∃ t ∈ asked, t.head? = some ':' := by
        obtain ⟨t, ht, hcolon⟩ := h
        rcases List.mem_cons.1 ht with rfl | ht
        · exact absurd hcolon hhead
        · exact ⟨t, ht, hcolon⟩
      exact (after?_join_append [s] asked (asked.map filled ++ rest)).trans (ih hlater)

/-- Where a segment of the prefix is a capture, the path with the captures filled in is let in by
itself as a rule, and the route sees what stands behind the prefix. -/
theorem isEvasion_of_head (hstart : webPrefix.toList.head? = some '/')
    (hspell : IsSpellable webPrefix) (hhead : ∃ s ∈ segmentsOf webPrefix, s.head? = some ':') :
    ∃ path rule, IsEvasion webPrefix "/p" path rule
      ∧ ¬ IsDoubled webPrefix (String.ofList path) := by
  set front := (segmentsOf webPrefix).map filled with hfront
  have hspelled : ∀ s ∈ front ++ [['p']], IsSpelled s := by
    refine List.forall_mem_append.2 ⟨List.forall_mem_map.2 fun s hs => ?_,
      List.forall_mem_singleton.2 (isSpelled_singleton (by decide))⟩
    exact (hspell.forall_mem hstart hs).2.filled
  obtain ⟨rest, hrest⟩ : ∃ rest, join front = '/' :: rest := by
    obtain ⟨s, hs, -⟩ := hhead
    obtain ⟨t, others, hcons⟩ := List.exists_cons_of_ne_nil (List.ne_nil_of_mem hs)
    rw [hfront, hcons]
    exact ⟨_, join_cons _ _⟩
  have hjoin : join (front ++ [['p']]) = '/' :: (rest ++ ['/'] ++ ['p']) := by
    rw [join_append, hrest, List.append_assoc]
    rfl
  have hnonempty : join (front ++ [['p']]) ≠ [] := by
    rw [hjoin]
    exact List.cons_ne_nil _ _
  have hspells : List.Forall₂ Spells (segmentsOf webPrefix) front :=
    List.forall₂_map_right_iff.2
      (List.forall₂_same.2 fun s hs => spells_filled (hspell.forall_mem hstart hs).1)
  have hfits : List.Forall₂ (fun s s' => fits s s' = true) (segmentsOf webPrefix) front :=
    List.forall₂_map_right_iff.2 (List.forall₂_same.2 fun s _ => fits_filled s)
  have hnone : Text.after? webPrefix.toList (join (front ++ [['p']])) = none := by
    rw [← join_segmentsOf hstart]
    exact after?_join_filled hhead [['p']]
  refine ⟨join (front ++ [['p']]), join (front ++ [['p']]),
    isEvasion_join hstart (by simp) hspelled ?_ ?_ hnonempty ?_ ?_ ?_, ?_⟩
  · have hshort : String.utf8Len (join front) ≤ String.utf8Len webPrefix.toList := by
      rw [← join_segmentsOf hstart]
      exact utf8Len_join_filled_le (segmentsOf webPrefix)
    have hsize := hspell.size
    rw [← String.ofList_toList (s := webPrefix), String.utf8ByteSize_ofList] at hsize
    have hlast : String.utf8Len (join [['p']]) = 2 := rfl
    rw [join_append, String.utf8Len_append]
    omega
  · refine Environment.readList_eq_singleton hnonempty (comma_not_mem_join hspelled) ?_
    rw [hjoin]
    exact Text.trim_eq_self (by decide) (by decide) _
  · rw [effectivePath, hnone]
    exact Text.beginsWith_iff.2 ⟨[], (List.append_nil _).symm⟩
  · exact (matchesSegments_append_of_spells hspells _ _).trans (by decide)
  · rw [segmentsAfter?_of_fits hfits, Bool.eq_false_iff]
    -- the rule is longer than what the route sees
    intro hbegins
    obtain ⟨left, hleft⟩ := Text.beginsWith_iff.1 hbegins
    have hlength := congrArg List.length hleft
    rw [hjoin] at hlength
    simp [pathOf] at hlength
    omega
  · refine not_isDoubled_of_after? ?_
    rwa [String.toList_ofList]

/-! ### A capture that goes on -/

/-- Where a capture ends the prefix behind some text, the whitelist takes the prefix off a longer
segment, and the route sees the path as it is. -/
theorem isEvasion_of_last (hstart : webPrefix.toList.head? = some '/')
    (hspell : IsSpellable webPrefix) (hhead : ∀ s ∈ segmentsOf webPrefix, s.head? ≠ some ':')
    {last : List Char} (hlast : (segmentsOf webPrefix).getLast? = some last) (hcolon : ':' ∈ last) :
    ∃ path rule, IsEvasion webPrefix "/p" path rule
      ∧ ¬ IsDoubled webPrefix (String.ofList path) := by
  obtain ⟨front, hfront⟩ : ∃ front, segmentsOf webPrefix = front ++ [last] :=
    List.getLast?_eq_some_iff.1 hlast
  have hmem : last ∈ segmentsOf webPrefix := List.mem_of_getLast? hlast
  have hmem' : ∀ s ∈ front, s ∈ segmentsOf webPrefix := by
    intro s hs
    rw [hfront]
    exact List.mem_append_left _ hs
  have hpath : join (front ++ [last ++ ['q']] ++ [['p']])
      = webPrefix.toList ++ ['q', '/', 'p'] := by
    rw [← join_segmentsOf hstart, hfront]
    simp [join]
  refine ⟨join (front ++ [last ++ ['q']] ++ [['p']]), ['q'],
    isEvasion_join hstart (by simp) ?_ ?_ (by decide) (by decide) ?_ ?_ ?_, ?_⟩
  · have hlonger := (hspell.forall_mem hstart hmem).2.append (isSpelled_singleton (c := 'q')
      (by decide))
    refine List.forall_mem_append.2 ⟨List.forall_mem_append.2 ⟨fun s hs => ?_,
      List.forall_mem_singleton.2 hlonger⟩,
      List.forall_mem_singleton.2 (isSpelled_singleton (by decide))⟩
    exact (hspell.forall_mem hstart (hmem' s hs)).2
  · have hsize := hspell.size
    rw [← String.ofList_toList (s := webPrefix), String.utf8ByteSize_ofList] at hsize
    have hmore : String.utf8Len ['q', '/', 'p'] = 3 := rfl
    rw [hpath, String.utf8Len_append]
    omega
  · rw [effectivePath, hpath, Text.after?_append_self]
    rfl
  · have hspells : List.Forall₂ Spells (segmentsOf webPrefix) (front ++ [last ++ ['q']]) := by
      rw [hfront]
      refine List.rel_append ?_ ?_
      · exact List.forall₂_same.2 fun s hs =>
          spells_self (hspell.forall_mem hstart (hmem' s hs)).1
      · exact .cons (spells_append (hspell.forall_mem hstart hmem).1 hcolon ['q']) .nil
    exact (matchesSegments_append_of_spells hspells _ _).trans (by decide)
  · have hempty : last ≠ [] := List.ne_nil_of_mem hcolon
    have hkept : segmentsAfter? (segmentsOf webPrefix) (front ++ [last ++ ['q']] ++ [['p']])
        = none := by
      rw [hfront, List.append_assoc, segmentsAfter?_append_of_fits (forall₂_fits_self front)]
      exact segmentsAfter?_cons_of_ne (hhead last hmem) hempty (by simp) [] [['p']]
    rw [hkept, Option.map_none, Option.getD_none, hpath]
    obtain ⟨text, htext⟩ := List.head?_eq_some_iff.1 hstart
    rw [htext]
    rfl
  · rw [hpath, isDoubled_iff (ne_empty_of_start hstart) String.toList_ofList]
    simp

/-- Below a prefix that is not plain, some path evades the whitelist, without two slashes behind the
prefix. -/
theorem exists_isEvasion (hstart : webPrefix.toList.head? = some '/')
    (hspell : IsSpellable webPrefix) (hplain : ¬ IsPlain (segmentsOf webPrefix)) :
    ∃ path rule, IsEvasion webPrefix "/p" path rule
      ∧ ¬ IsDoubled webPrefix (String.ofList path) := by
  by_cases hhead : ∃ s ∈ segmentsOf webPrefix, s.head? = some ':'
  · exact isEvasion_of_head hstart hspell hhead
  · have hhead' : ∀ s ∈ segmentsOf webPrefix, s.head? ≠ some ':' :=
      fun s hs heq => hhead ⟨s, hs, heq⟩
    by_cases hlast : ∃ last, (segmentsOf webPrefix).getLast? = some last ∧ ':' ∈ last
    · obtain ⟨last, hlast, hcolon⟩ := hlast
      exact isEvasion_of_last hstart hspell hhead' hlast hcolon
    · refine absurd ⟨fun s hs => (hspell.forall_mem hstart hs).1, hhead', ?_⟩ hplain
      exact fun s hs hcolon => hlast ⟨s, hs, hcolon⟩

/-! ### Two slashes -/

/-- A rule that begins with two slashes matches what the whitelist sees of a path with two slashes
behind the prefix, and not what the route sees of it. -/
theorem isEvasion_doubled (hstart : webPrefix.toList.head? = some '/')
    (hspell : IsSpellable webPrefix) :
    ∃ path rule, IsEvasion webPrefix "/*rest" path rule
      ∧ IsDoubled webPrefix (String.ofList path) := by
  have hpath : join (segmentsOf webPrefix ++ [[], ['p']]) = webPrefix.toList ++ ['/', '/', 'p'] := by
    rw [join_append, join_segmentsOf hstart]
    rfl
  refine ⟨join (segmentsOf webPrefix ++ [[], ['p']]), ['/', '/'],
    isEvasion_join hstart (by simp) ?_ ?_ (by decide) (by decide) ?_ ?_ ?_, ?_⟩
  · refine List.forall_mem_append.2 ⟨fun s hs => (hspell.forall_mem hstart hs).2, ?_⟩
    exact List.forall_mem_cons.2 ⟨List.forall_mem_nil _,
      List.forall_mem_singleton.2 (isSpelled_singleton (by decide))⟩
  · have hsize := hspell.size
    rw [← String.ofList_toList (s := webPrefix), String.utf8ByteSize_ofList] at hsize
    have hmore : String.utf8Len ['/', '/', 'p'] = 3 := rfl
    rw [hpath, String.utf8Len_append]
    omega
  · rw [hpath, effectivePath_append]
    rfl
  · have hspells : List.Forall₂ Spells (segmentsOf webPrefix) (segmentsOf webPrefix) :=
      List.forall₂_same.2 fun s hs => spells_self (hspell.forall_mem hstart hs).1
    exact (matchesSegments_append_of_spells hspells _ _).trans (by decide)
  · have hseen : pathOf [[], ['p']] = ['/', 'p'] := by decide
    rw [segmentsAfter?_of_fits (forall₂_fits_self _), Option.map_some, Option.getD_some, hseen]
    rfl
  · rw [hpath, isDoubled_iff (ne_empty_of_start hstart) String.toList_ofList]
    exact ⟨['p'], rfl⟩

end Mount

end AuthGateway
