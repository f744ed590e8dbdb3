import AuthGateway.Admission.Whitelist
import AuthGateway.Proofs.Routing.Segments
import AuthGateway.Routing.App
import Mathlib.Data.List.Forall2

/-!
# Prefixes that are read in one way

A web prefix is read three times: it is taken off a path as a text, for the whitelist; it is matched
as a pattern, to find a route; and it is taken off segment by segment, for the route.  The three
agree on plain prefixes (`Mount.IsPlain`).  There a path that the pattern matches either goes on
behind the prefix, and then both that take it off do so, or it does not, and then both leave the
path as it is (`Mount.IsPlain.cases`, by induction on the segments of the prefix).  What they leave
differs in two places: the text of the prefix alone leaves nothing, and the route sees the root; and
of two slashes behind the prefix (`Mount.IsDoubled`) the route sees one (`Mount.IsPlain.strip_path`).
-/

namespace AuthGateway

namespace PatternSegment

variable {s lead : List Char}

theorem takeWhile_append_of_not_mem (hcolon : ':' ∉ lead) (hstar : '*' ∉ lead) (s : List Char) :
    (lead ++ s).takeWhile (fun c => c ≠ ':' && c ≠ '*')
      = lead ++ s.takeWhile fun c => c ≠ ':' && c ≠ '*' := by
  refine List.takeWhile_append_of_pos fun c hc => ?_
  have hcolon' : c ≠ ':' := fun heq => hcolon (heq ▸ hc)
  have hstar' : c ≠ '*' := fun heq => hstar (heq ▸ hc)
  simp [hcolon', hstar']

theorem ofChars_of_not_mem (hcolon : ':' ∉ s) (hstar : '*' ∉ s) : ofChars s = .literal s := by
  have hlead := takeWhile_append_of_not_mem hcolon hstar []
  rw [List.takeWhile_nil, List.append_nil] at hlead
  unfold ofChars
  dsimp only
  rw [hlead, List.drop_length]
  rfl

theorem ofChars_append (hcolon : ':' ∉ lead) (hstar : '*' ∉ lead) (name : List Char) :
    ofChars (lead ++ ':' :: name) = .capture lead := by
  have hlead := takeWhile_append_of_not_mem hcolon hstar (':' :: name)
  rw [List.takeWhile_cons_of_neg (by decide), List.append_nil] at hlead
  unfold ofChars
  dsimp only
  rw [hlead, List.drop_left]
  rfl

/-- A segment that leaves no rest open is a literal or a capture behind some text. -/
theorem ofChars_cases (hstar : '*' ∉ s) :
    ofChars s = .literal s
      ∨ ∃ lead name, s = lead ++ ':' :: name ∧ ofChars s = .capture lead := by
  by_cases hcolon : ':' ∈ s
  · obtain ⟨lead, name, rfl, hlead⟩ := List.eq_append_cons_of_mem hcolon
    have hlead' : '*' ∉ lead := fun hmem => hstar (List.mem_append_left _ hmem)
    exact Or.inr ⟨lead, name, rfl, ofChars_append hlead hlead' name⟩
  · exact Or.inl (ofChars_of_not_mem hcolon hstar)

end PatternSegment

namespace Mount

/-- Whether the segments of a prefix are read in one way: nothing captures all that is left, no
segment begins with a capture, and no capture ends the prefix.  Behind some text and before a slash
a capture does no harm: the segment is then only taken off where it stands as it is. -/
structure IsPlain (asked : List (List Char)) : Prop where
  star : ∀ s ∈ asked, '*' ∉ s
  head : ∀ s ∈ asked, s.head? ≠ some ':'
  last : ∀ s ∈ asked.getLast?, ':' ∉ s

variable {asked segments rest : List (List Char)} {s s' : List Char} {more : Pattern}

theorem IsPlain.tail (h : IsPlain (s :: asked)) : IsPlain asked where
  star t ht := h.star t (List.mem_cons_of_mem s ht)
  head t ht := h.head t (List.mem_cons_of_mem s ht)
  last t ht := by
    refine h.last t ?_
    rw [List.getLast?_cons, Option.mem_def.1 ht]
    rfl

/-! ### Taking off segments -/

theorem fits_self (s : List Char) : fits s s = true := by
  simp [fits]

theorem segmentsAfter?_cons_of_fits (h : fits s s' = true) (asked rest : List (List Char)) :
    segmentsAfter? (s :: asked) (s' :: rest) = segmentsAfter? asked rest :=
  if_pos h

/-- Segments that fit do not matter. -/
theorem segmentsAfter?_append_of_fits {front : List (List Char)}
    (h : List.Forall₂ (fun s s' => fits s s' = true) front segments)
    (asked rest : List (List Char)) :
    segmentsAfter? (front ++ asked) (segments ++ rest) = segmentsAfter? asked rest := by
  induction h with
  | nil => rfl
  | cons hfits _ ih =>
    rw [List.cons_append, List.cons_append, segmentsAfter?_cons_of_fits hfits]
    exact ih

theorem forall₂_fits_self (front : List (List Char)) :
    List.Forall₂ (fun s s' => fits s s' = true) front front :=
  List.forall₂_same.2 fun s _ => fits_self s

/-- A prefix is taken off the segments that go on behind segments that fit. -/
theorem segmentsAfter?_of_fits (h : List.Forall₂ (fun s s' => fits s s' = true) asked segments)
    (rest : List (List Char)) : segmentsAfter? asked (segments ++ rest) = some rest := by
  have hall := segmentsAfter?_append_of_fits h [] rest
  rwa [List.append_nil] at hall

/-- Another segment is left where it is, unless it is captured or nothing is asked for. -/
theorem segmentsAfter?_cons_of_ne (hhead : s.head? ≠ some ':') (hempty : s ≠ []) (hne : s ≠ s')
    (asked rest : List (List Char)) : segmentsAfter? (s :: asked) (s' :: rest) = none := by
  have hfits : ¬ fits s s' = true := by
    simp [fits, hhead, hne]
  rw [segmentsAfter?, if_neg hfits, if_neg hempty]

/-! ### Matching -/

/-- A segment of a path that a segment of a prefix matches is the same, unless there is a
capture. -/
theorem exists_of_matchesSegments_cons {pattern : Pattern} (hstar : '*' ∉ s)
    (h : Pattern.matchesSegments (.ofChars s :: pattern) segments = true) :
    ∃ s' rest, segments = s' :: rest ∧ pattern.matchesSegments rest = true
      ∧ (s' = s ∨ ∃ lead name, s = lead ++ ':' :: name) := by
  rcases PatternSegment.ofChars_cases hstar with hliteral | ⟨lead, name, hs, hcapture⟩
  · rw [hliteral] at h
    cases segments with
    | nil => exact absurd h (by simp [Pattern.matchesSegments])
    | cons s' rest =>
      obtain ⟨hsame, hrest⟩ := Bool.and_eq_true_iff.1 h
      exact ⟨s', rest, rfl, hrest, Or.inl (beq_iff_eq.1 hsame).symm⟩
  · rw [hcapture] at h
    cases segments with
    | nil => exact absurd h (by simp [Pattern.matchesSegments])
    | cons s' rest =>
      obtain ⟨-, hrest⟩ := Bool.and_eq_true_iff.1 h
      exact ⟨s', rest, rfl, hrest, Or.inr ⟨lead, name, hs⟩⟩

/-- The segments that a plain prefix matches go on behind it, or they leave it at a segment where
nothing is taken off. -/
theorem IsPlain.cases (hplain : IsPlain asked) (hasked : ∀ s ∈ asked, '/' ∉ s)
    (hslash : ∀ s ∈ segments, '/' ∉ s)
    (h : Pattern.matchesSegments (asked.map .ofChars ++ more) segments = true) :
    (∃ rest, segments = asked ++ rest)
      ∨ (segmentsAfter? asked segments = none
        ∧ Text.after? (join asked) (join segments) = none) := by
  induction asked generalizing segments with
  | nil => exact Or.inl ⟨segments, rfl⟩
  | cons s asked ih =>
    obtain ⟨s', rest, rfl, hrest, hs⟩ :=
      exists_of_matchesSegments_cons (hplain.star s List.mem_cons_self) h
    by_cases hne : s = s'
    · subst hne
      have hlater := ih hplain.tail (fun t ht => hasked t (List.mem_cons_of_mem s ht))
        (fun t ht => hslash t (List.mem_cons_of_mem s ht)) hrest
      rcases hlater with ⟨left, rfl⟩ | ⟨hsegments, htext⟩
      · exact Or.inl ⟨left, rfl⟩
      · right
        rw [segmentsAfter?_cons_of_fits (fits_self s)]
        exact ⟨hsegments, (after?_join_append [s] asked rest).trans htext⟩
    · -- only a capture matches another segment, and it has text before it and segments behind it
      obtain ⟨lead, name, hcapture⟩ := hs.resolve_left fun heq => hne heq.symm
      have hempty : s ≠ [] := by
        rw [hcapture]
        simp
      have hmore : asked ≠ [] := by
        rintro rfl
        refine hplain.last s rfl ?_
        rw [hcapture]
        exact List.mem_append_right lead List.mem_cons_self
      right
      exact ⟨segmentsAfter?_cons_of_ne (hplain.head s List.mem_cons_self) hempty hne asked rest,
        after?_join_cons_of_ne (hasked s List.mem_cons_self) (hslash s' List.mem_cons_self) hne
          hmore⟩

/-! ### Prefixes as texts -/

/-- The segments of a prefix. -/
def segmentsOf (webPrefix : String) : List (List Char) :=
  (webPrefix.toList.drop 1).splitOn '/'

variable {webPrefix : String}

theorem segments?_eq_segmentsOf (h : webPrefix.toList.head? = some '/') :
    Pattern.segments? webPrefix.toList = some (segmentsOf webPrefix) := by
  unfold segmentsOf
  cases htext : webPrefix.toList with
  | nil =>
    rw [htext] at h
    exact absurd h (by simp)
  | cons c text =>
    rw [htext] at h
    obtain rfl := Option.some.inj h
    rfl

theorem ne_empty_of_start (h : webPrefix.toList.head? = some '/') : webPrefix ≠ "" := by
  rintro rfl
  exact absurd h (by decide)

/-- A prefix is the text of its segments. -/
theorem join_segmentsOf (h : webPrefix.toList.head? = some '/') :
    join (segmentsOf webPrefix) = webPrefix.toList :=
  (Pattern.segments?_eq_some_iff.1 (segments?_eq_segmentsOf h)).1.symm

theorem slash_not_mem_of_mem_segmentsOf {s : List Char} (hs : s ∈ segmentsOf webPrefix) :
    '/' ∉ s :=
  (Text.mem_splitOn_iff.1 hs).1

/-- A prefix is taken off the segments of a path. -/
theorem pathAfter?_eq_map {text path : List Char} (htext : Pattern.segments? text = some asked)
    (hpath : Pattern.segments? path = some segments) :
    pathAfter? text path = (segmentsAfter? asked segments).map pathOf := by
  unfold pathAfter?
  rw [htext, hpath, Option.map_eq_bind]
  rfl

/-- A prefix and a pattern below it are read as one pattern. -/
theorem ofText_append (h : webPrefix.toList.head? = some '/') {pattern : String}
    (hpattern : pattern.toList.head? = some '/') :
    Pattern.ofText (webPrefix ++ pattern) = Pattern.ofText webPrefix ++ Pattern.ofText pattern := by
  obtain ⟨text, htext⟩ : ∃ text, webPrefix.toList = '/' :: text :=
    List.head?_eq_some_iff.1 h
  obtain ⟨text', htext'⟩ : ∃ text, pattern.toList = '/' :: text :=
    List.head?_eq_some_iff.1 hpattern
  unfold Pattern.ofText
  rw [String.toList_append, htext, htext', List.cons_append, List.drop_one, List.drop_one,
    List.drop_one, List.tail_cons, List.tail_cons, List.tail_cons,
    List.splitOn_append_cons_self, List.map_append]

/-- The paths that go on behind a plain prefix lose it, and other paths that its pattern matches keep
it. -/
theorem IsPlain.strip_cases (hstart : webPrefix.toList.head? = some '/')
    (hplain : IsPlain (segmentsOf webPrefix)) {uri : Uri}
    (h : Pattern.admits (Pattern.ofText webPrefix ++ more) uri.path = true) :
    (∃ rest, uri.path.toList = webPrefix.toList ++ join rest
        ∧ (strip webPrefix uri).path.toList = pathOf rest)
      ∨ (strip webPrefix uri = uri
        ∧ Text.after? webPrefix.toList uri.path.toList = none) := by
  obtain ⟨segments, hsegments, hmatches⟩ := (Option.any_eq_true _ _).1 h
  obtain ⟨hpath, -, hslash⟩ := Pattern.segments?_eq_some_iff.1 hsegments
  have hafter : pathAfter? webPrefix.toList uri.path.toList
      = (segmentsAfter? (segmentsOf webPrefix) segments).map pathOf :=
    pathAfter?_eq_map (segments?_eq_segmentsOf hstart) hsegments
  unfold strip
  rw [hafter, ← join_segmentsOf hstart, hpath]
  rcases hplain.cases (fun s => slash_not_mem_of_mem_segmentsOf) hslash hmatches with
    ⟨rest, rfl⟩ | ⟨hnone, hnone'⟩
  · left
    rw [segmentsAfter?_of_fits (forall₂_fits_self _)]
    exact ⟨rest, join_append _ _, String.toList_ofList⟩
  · right
    rw [hnone]
    exact ⟨rfl, hnone'⟩

/-- Without captures, a prefix is plain. -/
theorem isPlain_of_not_mem (hcolon : ':' ∉ webPrefix.toList) (hstar : '*' ∉ webPrefix.toList) :
    IsPlain (segmentsOf webPrefix) := by
  have hmem {s : List Char} (hs : s ∈ segmentsOf webPrefix) {c : Char} (hc : c ∈ s) :
      c ∈ webPrefix.toList := by
    obtain ⟨-, front, back, htext, -, -⟩ := Text.mem_splitOn_iff.1 hs
    refine List.mem_of_mem_drop (i := 1) ?_
    rw [htext]
    exact List.mem_append_left back (List.mem_append_right front hc)
  constructor
  · exact fun s hs hc => hstar (hmem hs hc)
  · exact fun s hs hhead => hcolon (hmem hs (List.mem_of_head? hhead))
  · exact fun s hs hc => hcolon (hmem (List.mem_of_getLast? hs) hc)

theorem effectivePath_append (front path : List Char) :
    effectivePath front (front ++ path) = path := by
  unfold effectivePath
  rw [Text.after?_append_self]
  rfl

/-- Nothing is left of the prefix itself. -/
theorem effectivePath_self (path : List Char) : effectivePath path path = [] := by
  have hnothing := effectivePath_append path []
  rwa [List.append_nil] at hnothing

/-- Whether a path has two slashes behind a prefix. -/
def IsDoubled (webPrefix path : String) : Prop :=
  webPrefix ≠ "" ∧ ∃ rest, path = webPrefix ++ "//" ++ rest

/-- What two slashes begin is doubled behind the prefix. -/
theorem isDoubled_iff {path : String} {back : List Char} (hne : webPrefix ≠ "")
    (hpath : path.toList = webPrefix.toList ++ back) :
    IsDoubled webPrefix path ↔ ∃ rest, back = '/' :: '/' :: rest := by
  have htwo : "//".toList = ['/', '/'] := rfl
  constructor
  · rintro ⟨-, rest, rfl⟩
    rw [String.toList_append, String.toList_append, List.append_assoc, htwo,
      List.append_cancel_left_eq] at hpath
    exact ⟨rest.toList, hpath.symm⟩
  · rintro ⟨rest, rfl⟩
    refine ⟨hne, String.ofList rest, String.toList_injective ?_⟩
    rw [hpath, String.toList_append, String.toList_append, htwo, String.toList_ofList,
      List.append_assoc]
    rfl

/-- Where the prefix is no text that a path begins with, nothing is doubled behind it. -/
theorem not_isDoubled_of_after? {path : String}
    (h : Text.after? webPrefix.toList path.toList = none) : ¬ IsDoubled webPrefix path := by
  rintro ⟨-, rest, rfl⟩
  rw [String.toList_append, String.toList_append, List.append_assoc, Text.after?_append_self] at h
  exact absurd h (by simp)

/-- Below a plain prefix, the route sees the path that the whitelist looks at, with two exceptions:
at the prefix itself it sees the root, and of two slashes behind the prefix it sees one. -/
theorem IsPlain.strip_path (hstart : webPrefix.toList.head? = some '/')
    (hplain : IsPlain (segmentsOf webPrefix)) {uri : Uri}
    (h : Pattern.admits (Pattern.ofText webPrefix ++ more) uri.path = true) :
    (uri.path = webPrefix ∧ (strip webPrefix uri).path = "/")
      ∨ (IsDoubled webPrefix uri.path
        ∧ effectivePath webPrefix.toList uri.path.toList
          = '/' :: (strip webPrefix uri).path.toList)
      ∨ (¬ IsDoubled webPrefix uri.path
        ∧ effectivePath webPrefix.toList uri.path.toList
          = (strip webPrefix uri).path.toList) := by
  rcases hplain.strip_cases hstart h with ⟨rest, hpath, hseen⟩ | ⟨hseen, hnone⟩
  · have hdoubled := isDoubled_iff (ne_empty_of_start hstart) hpath
    rw [hseen, hpath, effectivePath_append]
    by_cases hrest : rest = []
    · subst hrest
      exact Or.inl ⟨String.toList_injective (hpath.trans (List.append_nil _)),
        String.toList_injective hseen⟩
    · by_cases htwo : ∃ left, join rest = '/' :: '/' :: left
      · obtain ⟨left, hleft⟩ := htwo
        refine Or.inr (Or.inl ⟨hdoubled.2 ⟨left, hleft⟩, ?_⟩)
        rw [pathOf_of_doubled hleft, hleft]
      · exact Or.inr (Or.inr ⟨fun h => htwo (hdoubled.1 h), (pathOf_of_head hrest htwo).symm⟩)
  · refine Or.inr (Or.inr ⟨not_isDoubled_of_after? hnone, ?_⟩)
    rw [effectivePath, hnone, hseen]
    rfl

end Mount

/-! ### The whitelist below a prefix -/

/-- Without empty rules, nothing matches the empty path. -/
theorem Whitelist.admits_ofRules_nil (beginnings exact : List String) :
    (ofRules beginnings exact).admits [] = false := by
  rw [admits, Bool.or_eq_false_iff, List.any_eq_false, List.any_eq_false]
  constructor
  · intro rule hrule
    have hne : rule ≠ "" := of_decide_eq_true (List.mem_filter.1 hrule).2
    simpa using hne
  · intro rule hrule hbegins
    have hne : rule ≠ "" := of_decide_eq_true (List.mem_filter.1 hrule).2
    obtain ⟨rest, hrest⟩ := Text.beginsWith_iff.1 hbegins
    exact hne (String.toList_eq_nil_iff.1 (List.append_eq_nil_iff.1 hrest.symm).1)

/-- Below a plain prefix, the rules that match a path with the prefix taken off match what the route
sees, or that with the slash in front which it has lost. -/
theorem Mount.IsPlain.admits_strip {webPrefix : String}
    (hstart : webPrefix.toList.head? = some '/') (hplain : IsPlain (segmentsOf webPrefix))
    {uri : Uri} {more : Pattern}
    (h : Pattern.admits (Pattern.ofText webPrefix ++ more) uri.path = true)
    {beginnings exact : List String}
    (hopen : (Whitelist.ofRules beginnings exact).admits
      (effectivePath webPrefix.toList uri.path.toList) = true) :
    (¬ IsDoubled webPrefix uri.path →
        (Whitelist.ofRules beginnings exact).admits (strip webPrefix uri).path.toList = true)
      ∧ (IsDoubled webPrefix uri.path →
        (Whitelist.ofRules beginnings exact).admits ('/' :: (strip webPrefix uri).path.toList)
          = true) := by
  rcases hplain.strip_path hstart h with ⟨hself, -⟩ | ⟨htwo, hmore⟩ | ⟨hone, hsame⟩
  · rw [hself, effectivePath_self, Whitelist.admits_ofRules_nil] at hopen
    exact absurd hopen (by decide)
  · rw [hmore] at hopen
    exact ⟨fun hone => absurd htwo hone, fun _ => hopen⟩
  · rw [hsame] at hopen
    exact ⟨fun _ => hopen, fun htwo => absurd htwo hone⟩

/-! ### Routes below a prefix -/

/-- Whether all patterns of an application are paths.  A router takes no others. -/
def App.IsRooted (a : App) : Prop :=
  ∀ r ∈ a.routes, r.pattern.toList.head? = some '/'

/-- A fold whose steps take the next candidate or keep the best so far ends in a candidate or in the
best at the start. -/
theorem Route.mem_or_eq_of_foldl {pick : Option Route → Route → Option Route}
    (hpick : ∀ best candidate, pick best candidate = some candidate ∨ pick best candidate = best)
    {candidates : List Route} {best : Option Route} {r : Route}
    (h : candidates.foldl pick best = some r) : r ∈ candidates ∨ best = some r := by
  induction candidates generalizing best with
  | nil => exact Or.inr h
  | cons candidate candidates ih =>
    rw [List.foldl_cons] at h
    rcases ih h with hmem | hfirst
    · exact Or.inl (List.mem_cons_of_mem candidate hmem)
    · rcases hpick best candidate with htaken | hkept
      · obtain rfl := Option.some.inj (htaken.symm.trans hfirst)
        exact Or.inl List.mem_cons_self
      · exact Or.inr (hkept.symm.trans hfirst)

/-- A route that is found matches the path. -/
theorem App.admits_of_route? {a : App} {webPrefix path : String} {r : Route}
    (h : a.route? webPrefix path = some r) :
    r ∈ a.routes ∧ (r.mounted webPrefix).admits path = true := by
  unfold route? at h
  have hmem := Route.mem_or_eq_of_foldl (fun best candidate => by
    cases best with
    | none => exact Or.inl rfl
    | some b =>
      dsimp only
      split_ifs
      · exact Or.inl rfl
      · exact Or.inr rfl) h
  rcases hmem with hmem | hnone
  · exact List.mem_filter.1 hmem
  · exact absurd hnone (by simp)

/-- The pattern of a route below a prefix goes on behind the prefix. -/
theorem Route.exists_mounted {webPrefix : String} (hstart : webPrefix.toList.head? = some '/')
    {r : Route} (hr : r.pattern.toList.head? = some '/') :
    ∃ more, r.mounted webPrefix = Pattern.ofText webPrefix ++ more := by
  unfold mounted
  split_ifs with hroot
  · exact ⟨[], (List.append_nil _).symm⟩
  · exact ⟨Pattern.ofText r.pattern, Mount.ofText_append hstart hr⟩

end AuthGateway
