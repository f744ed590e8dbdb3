import AuthGateway.Proofs.Routing.Evasion

/-!
# Routes below a literal prefix

A literal prefix has no captures, and what lies below it is what there would be without it: the
prefix is taken off a path as it was put in front (`Mount.strip_append`), a pattern below it matches
a path below it where the pattern matches the path (`Mount.IsLiteral.admits_append`), and patterns
go first in the same order (`Pattern.precedes_append`).  So a path with something behind its first
slash leads to the same place (`App.destination_below`).  The root route is the one that a prefix
treats in another way, and it matches no such path.
-/

namespace AuthGateway

namespace Mount

variable {webPrefix : String} {segments : List (List Char)}

/-- A prefix without captures. -/
structure IsLiteral (webPrefix : String) : Prop where
  start : webPrefix.toList.head? = some '/'
  chars : ∀ c ∈ webPrefix.toList, c ≠ ':' ∧ c ≠ '*'

/-- A path with something behind its first slash, which is no other slash. -/
def GoesOn (path : String) : Prop :=
  ∃ c rest, path.toList = '/' :: c :: rest ∧ c ≠ '/'

/-- The segments of a literal prefix match themselves. -/
theorem IsLiteral.forall₂_spells (h : IsLiteral webPrefix) :
    List.Forall₂ Spells (segmentsOf webPrefix) (segmentsOf webPrefix) := by
  refine List.forall₂_same.2 fun s hs => spells_self fun hstar => ?_
  have hmem : '*' ∈ webPrefix.toList := by
    rw [← join_segmentsOf h.start]
    exact mem_join hs hstar
  exact (h.chars '*' hmem).2 rfl

/-- A path that goes on begins with one slash. -/
theorem GoesOn.not_doubled {path : String} (h : GoesOn path) :
    ¬ ∃ rest, path.toList = '/' :: '/' :: rest := by
  obtain ⟨c, rest, hpath, hc⟩ := h
  rintro ⟨rest', htwo⟩
  exact hc (List.cons.inj (List.cons.inj (hpath.symm.trans htwo)).2).1

/-- A path that goes on has segments, the first of them not empty. -/
theorem GoesOn.exists_segments {path : String} (h : GoesOn path) :
    ∃ s rest, Pattern.segments? path.toList = some (s :: rest) ∧ s ≠ [] := by
  obtain ⟨c, rest, hpath, hc⟩ := h
  obtain ⟨s, others, hsegments⟩ := List.exists_cons_of_ne_nil (List.splitOn_ne_nil '/' rest)
  have hc' : (c == '/') = false := beq_eq_false_iff_ne.2 hc
  have hsplit : (c :: rest).splitOn '/' = (c :: s) :: others := by
    rw [List.splitOn_cons_eq_if_modifyHead, hc', hsegments]
    rfl
  refine ⟨c :: s, others, ?_, List.cons_ne_nil c s⟩
  rw [hpath]
  exact congrArg some hsplit

/-- A prefix in front of a path puts its segments in front of those of the path. -/
theorem segments?_append (hstart : webPrefix.toList.head? = some '/') {path : String}
    (hpath : Pattern.segments? path.toList = some segments) :
    Pattern.segments? (webPrefix ++ path).toList = some (segmentsOf webPrefix ++ segments) := by
  obtain ⟨htext, hne, hslash⟩ := Pattern.segments?_eq_some_iff.1 hpath
  refine Pattern.segments?_eq_some_iff.2 ⟨?_, List.append_ne_nil_of_right_ne_nil _ hne, ?_⟩
  · rw [String.toList_append, join_append, join_segmentsOf hstart, htext]
  · intro s hs
    rcases List.mem_append.1 hs with hs | hs
    · exact slash_not_mem_of_mem_segmentsOf hs
    · exact hslash s hs

/-- A prefix is taken off as it was put in front. -/
theorem strip_append (hstart : webPrefix.toList.head? = some '/') {uri : Uri}
    (hpath : GoesOn uri.path) :
    strip webPrefix { uri with path := webPrefix ++ uri.path } = uri := by
  obtain ⟨s, rest, hsegments, -⟩ := hpath.exists_segments
  obtain ⟨htext, hne, -⟩ := Pattern.segments?_eq_some_iff.1 hsegments
  have hone : pathOf (s :: rest) = uri.path.toList := by
    have hsingle := hpath.not_doubled
    rw [htext] at hsingle ⊢
    exact pathOf_of_head hne hsingle
  have hafter : pathAfter? webPrefix.toList (webPrefix ++ uri.path).toList
      = some uri.path.toList := by
    rw [pathAfter?_eq_map (segments?_eq_segmentsOf hstart) (segments?_append hstart hsegments),
      segmentsAfter?_of_fits (forall₂_fits_self _), Option.map_some, hone]
  unfold strip
  rw [hafter]
  dsimp only
  rw [String.ofList_toList]

/-- A pattern below a literal prefix matches a path below it where it matches the path. -/
theorem IsLiteral.admits_append (h : IsLiteral webPrefix) {path : String}
    (hpath : Pattern.segments? path.toList = some segments) (more : Pattern) :
    Pattern.admits (Pattern.ofText webPrefix ++ more) (webPrefix ++ path)
      = more.matchesSegments segments := by
  unfold Pattern.admits
  rw [segments?_append h.start hpath]
  exact matchesSegments_append_of_spells h.forall₂_spells more segments

end Mount

open Mount (IsLiteral GoesOn)

/-- What patterns have in common does not decide which of them goes first. -/
theorem Pattern.precedes_append (front p q : Pattern) :
    precedes (front ++ p) (front ++ q) = precedes p q := by
  have hcommon (l a b : List Nat) : l ++ a < l ++ b ↔ a < b := by
    induction l with
    | nil => exact Iff.rfl
    | cons n l ih => rw [List.cons_append, List.cons_append, List.cons_lt_cons_self, ih]
  unfold precedes
  rw [List.map_append, List.map_append]
  exact decide_eq_decide.2 (hcommon _ _ _)

namespace Route

variable {webPrefix path : String} {r : Route}

/-- Without a prefix, the pattern of a route is read as it stands. -/
theorem mounted_empty (r : Route) : r.mounted "" = Pattern.ofText r.pattern := by
  unfold mounted
  rw [if_neg fun h => h.2 rfl, String.empty_append]

/-- Below a prefix, the pattern of a route that is not the root goes on behind the prefix. -/
theorem mounted_eq_append (hstart : webPrefix.toList.head? = some '/')
    (hr : r.pattern.toList.head? = some '/') (hroot : r.pattern ≠ "/") :
    r.mounted webPrefix = Pattern.ofText webPrefix ++ r.mounted "" := by
  unfold mounted
  rw [if_neg fun h => hroot h.1, if_neg fun h => h.2 rfl, String.empty_append,
    Mount.ofText_append hstart hr]

/-- The root route matches no path that goes on. -/
theorem pattern_ne_of_admits (hpath : GoesOn path) (h : (r.mounted "").admits path = true) :
    r.pattern ≠ "/" := by
  intro hroot
  obtain ⟨s, rest, hsegments, hs⟩ := hpath.exists_segments
  have hpattern : Pattern.ofText "/" = [.literal []] := rfl
  have hliteral : ([] == s) = false := beq_eq_false_iff_ne.2 fun heq => hs heq.symm
  rw [mounted_empty, hroot, hpattern, Pattern.admits, hsegments, Option.any_some,
    Pattern.matchesSegments, hliteral] at h
  exact absurd h (by simp)

/-- A route below a literal prefix matches what lies below it where the route matches it. -/
theorem admits_mounted (hliteral : IsLiteral webPrefix) (hr : r.pattern.toList.head? = some '/')
    (hpath : GoesOn path) :
    (r.mounted webPrefix).admits (webPrefix ++ path) = (r.mounted "").admits path := by
  obtain ⟨s, rest, hsegments, -⟩ := hpath.exists_segments
  by_cases hroot : r.pattern = "/"
  · -- neither the root nor the prefix alone has anything behind it
    have hmounted : r.mounted webPrefix = Pattern.ofText webPrefix ++ [] := by
      rw [mounted, if_pos ⟨hroot, Mount.ne_empty_of_start hliteral.start⟩, List.append_nil]
    have hnone : Pattern.matchesSegments [] (s :: rest) = false := rfl
    rw [hmounted, hliteral.admits_append hsegments, hnone]
    exact (Bool.eq_false_iff.2 fun h => pattern_ne_of_admits hpath h hroot).symm
  · rw [mounted_eq_append hliteral.start hr hroot, hliteral.admits_append hsegments,
      Pattern.admits, hsegments, Option.any_some]

/-- Folds that take the next candidate or keep the best so far end in the same one when they agree
about candidates of some kind. -/
theorem foldl_pick_congr {P : Route → Prop} {pick pick' : Option Route → Route → Option Route}
    (hpick : ∀ best candidate, pick best candidate = some candidate ∨ pick best candidate = best)
    (hsame : ∀ best candidate, (∀ b ∈ best, P b) → P candidate →
      pick best candidate = pick' best candidate)
    {candidates : List Route} (hcandidates : ∀ r ∈ candidates, P r) {best : Option Route}
    (hbest : ∀ b ∈ best, P b) : candidates.foldl pick best = candidates.foldl pick' best := by
  induction candidates generalizing best with
  | nil => rfl
  | cons candidate candidates ih =>
    have hcandidate := hcandidates candidate List.mem_cons_self
    have hnext : ∀ b ∈ pick best candidate, P b := by
      rcases hpick best candidate with htaken | hkept
      · rw [htaken]
        rintro b hb
        rwa [← Option.some.inj hb]
      · rwa [hkept]
    rw [List.foldl_cons, List.foldl_cons, ← hsame best candidate hbest hcandidate]
    exact ih (fun r hr => hcandidates r (List.mem_cons_of_mem candidate hr)) hnext

end Route

namespace App

variable {app : App} {webPrefix path : String}

/-- Below a literal prefix the same route is found. -/
theorem route?_below (hrooted : app.IsRooted) (hliteral : IsLiteral webPrefix)
    (hpath : GoesOn path) : app.route? webPrefix (webPrefix ++ path) = app.route? "" path := by
  have hcandidates : (app.routes.filter fun r => (r.mounted webPrefix).admits (webPrefix ++ path))
      = app.routes.filter fun r => (r.mounted "").admits path :=
    List.filter_congr fun r hr => Route.admits_mounted hliteral (hrooted r hr) hpath
  unfold route?
  rw [hcandidates]
  -- candidates are rooted and not the root, so that their patterns go on behind the prefix
  refine Route.foldl_pick_congr (P := fun r => r.pattern.toList.head? = some '/' ∧ r.pattern ≠ "/")
    (fun best candidate => ?_) (fun best candidate hbest hcandidate => ?_) (fun r hr => ?_)
    (fun b hb => absurd hb (by simp))
  · cases best with
    | none => exact Or.inl rfl
    | some b =>
      dsimp only
      split_ifs
      · exact Or.inl rfl
      · exact Or.inr rfl
  · cases best with
    | none => rfl
    | some b =>
      obtain ⟨hb, hb'⟩ := hbest b rfl
      dsimp only
      rw [Route.mounted_eq_append hliteral.start hcandidate.1 hcandidate.2,
        Route.mounted_eq_append hliteral.start hb hb', Pattern.precedes_append]
  · obtain ⟨hmem, hadmits⟩ := List.mem_filter.1 hr
    exact ⟨hrooted r hmem, Route.pattern_ne_of_admits hpath hadmits⟩

/-- What goes on behind a literal prefix lies below it. -/
theorem isBelow_append (hliteral : IsLiteral webPrefix) (hpath : GoesOn path) :
    isBelow webPrefix (webPrefix ++ path) = true := by
  obtain ⟨s, rest, hsegments, hs⟩ := hpath.exists_segments
  have hrest : Pattern.matchesSegments (Pattern.ofText "/*rest") (s :: rest) = true := by
    have hpattern : Pattern.ofText "/*rest" = [.rest []] := by decide
    have hgoes : ['/'].intercalate (s :: rest) ≠ [] := by
      cases rest with
      | nil => rwa [List.intercalate_singleton]
      | cons s' rest => simp [List.intercalate_cons_cons]
    rw [hpattern, Pattern.matchesSegments, PatternSegment.goesOn]
    exact decide_eq_true hgoes
  have hbelow : (Pattern.ofText (webPrefix ++ "/*rest")).admits (webPrefix ++ path) = true := by
    rw [Mount.ofText_append hliteral.start (by decide), hliteral.admits_append hsegments, hrest]
  rw [isBelow, hbelow, Bool.or_true]

/-- What goes on behind a literal prefix leads where it would lead without. -/
theorem destination_below (hrooted : app.IsRooted) (hliteral : IsLiteral webPrefix)
    (hpath : GoesOn path) :
    app.destination webPrefix (webPrefix ++ path) = app.destination "" path := by
  have hroot : isBelow "" path = true := rfl
  unfold destination
  rw [route?_below hrooted hliteral hpath, isBelow_append hliteral hpath, hroot]

end App

end AuthGateway
