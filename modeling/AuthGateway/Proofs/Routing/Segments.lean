import AuthGateway.Proofs.Text.Pieces
import AuthGateway.Routing.Mount

/-!
# Paths and their segments

A path is the text of its segments, a slash before each of them, and its segments are the only ones
without slashes that have this text (`Pattern.segments?_eq_some_iff`).  Where the text of some
segments is taken off a path, they are compared one by one, except that the last of them may end
inside a segment of the path (`Mount.after?_join_cons_of_ne`).
-/

namespace AuthGateway

/-! ### Segments -/

namespace Mount

/-- The text of some segments. -/
def join (segments : List (List Char)) : List Char :=
  segments.flatMap ('/' :: ·)

theorem join_cons (s : List Char) (segments : List (List Char)) :
    join (s :: segments) = '/' :: (s ++ join segments) :=
  rfl

theorem join_append (front back : List (List Char)) :
    join (front ++ back) = join front ++ join back :=
  List.flatMap_append

/-- A slash and segments with slashes between them. -/
theorem join_eq_cons_intercalate {segments : List (List Char)} (h : segments ≠ []) :
    join segments = '/' :: ['/'].intercalate segments := by
  induction segments with
  | nil => exact absurd rfl h
  | cons s segments ih =>
    cases segments with
    | nil => rw [join_cons, List.intercalate_singleton, join, List.flatMap_nil, List.append_nil]
    | cons s' segments =>
      rw [join_cons, ih (List.cons_ne_nil s' segments), List.intercalate_cons_cons,
        List.append_assoc]
      rfl

/-- Behind a prefix, segments make the path that is their text, unless it begins with two slashes. -/
theorem pathOf_of_head {segments : List (List Char)} (h : segments ≠ [])
    (hone : ¬ ∃ rest, join segments = '/' :: '/' :: rest) : pathOf segments = join segments := by
  rw [join_eq_cons_intercalate h] at hone ⊢
  refine if_neg fun hhead => hone ?_
  obtain ⟨rest, hrest⟩ := List.head?_eq_some_iff.1 hhead
  exact ⟨rest, by rw [hrest]⟩

/-- Of two slashes behind a prefix one is left. -/
theorem pathOf_of_doubled {segments : List (List Char)} {rest : List Char}
    (h : join segments = '/' :: '/' :: rest) : pathOf segments = '/' :: rest := by
  have hne : segments ≠ [] := by
    rintro rfl
    exact absurd h (by simp [join])
  rw [join_eq_cons_intercalate hne, List.cons_inj_right] at h
  unfold pathOf
  rw [h]
  rfl

/-- What follows a segment in a path begins with a slash, if anything does. -/
theorem join_eq_nil_or_head (segments : List (List Char)) :
    join segments = [] ∨ ∃ rest, join segments = '/' :: rest := by
  cases segments with
  | nil => exact Or.inl rfl
  | cons s segments => exact Or.inr ⟨_, join_cons s segments⟩

end Mount

/-- The segments of a path are the only ones without slashes whose text it is. -/
theorem Pattern.segments?_eq_some_iff {path : List Char} {segments : List (List Char)} :
    Pattern.segments? path = some segments
      ↔ path = Mount.join segments ∧ segments ≠ [] ∧ ∀ s ∈ segments, '/' ∉ s := by
  constructor
  · intro h
    unfold Pattern.segments? at h
    split at h
    · rename_i rest
      obtain rfl := Option.some.inj h
      refine ⟨?_, List.splitOn_ne_nil '/' rest, fun s hs => (Text.mem_splitOn_iff.1 hs).1⟩
      rw [Mount.join_eq_cons_intercalate (List.splitOn_ne_nil '/' rest), List.intercalate_splitOn]
    · exact absurd h (by simp)
  · rintro ⟨rfl, hne, hslash⟩
    rw [Mount.join_eq_cons_intercalate hne, Pattern.segments?,
      List.splitOn_intercalate '/' hslash hne]

namespace Mount

variable {s s' : List Char} {front segments : List (List Char)}

/-- Segments that agree do not matter. -/
theorem after?_join_append (front segments segments' : List (List Char)) :
    Text.after? (join (front ++ segments)) (join (front ++ segments'))
      = Text.after? (join segments) (join segments') := by
  rw [join_append, join_append, Text.after?_append_append]

/-- A text in front of a slash is all that stands before the first slash. -/
theorem eq_of_append_slash {a b x y : List Char} (ha : '/' ∉ a) (hb : '/' ∉ b)
    (hy : y = [] ∨ ∃ rest, y = '/' :: rest) (h : b ++ y = a ++ '/' :: x) : a = b := by
  have hstop {t : List Char} (ht : '/' ∉ t) : ∀ c ∈ t, (decide (c ≠ '/')) = true := by
    intro c hc
    exact decide_eq_true fun heq => ht (heq ▸ hc)
  have hy' : y.takeWhile (fun c => decide (c ≠ '/')) = [] := by
    rcases hy with rfl | ⟨rest, rfl⟩ <;> rfl
  have hbefore := congrArg (List.takeWhile fun c => decide (c ≠ '/')) h
  rw [List.takeWhile_append_of_pos (hstop hb), List.takeWhile_append_of_pos (hstop ha), hy',
    List.append_nil] at hbefore
  exact (hbefore.trans (List.append_nil a)).symm

/-- A segment that is not the last one is compared as a whole. -/
theorem after?_join_cons_of_ne {asked rest : List (List Char)} (hs : '/' ∉ s) (hs' : '/' ∉ s')
    (hne : s ≠ s') (hmore : asked ≠ []) :
    Text.after? (join (s :: asked)) (join (s' :: rest)) = none := by
  rw [Option.eq_none_iff_forall_ne_some]
  intro left h
  rw [Text.after?_eq_some_iff] at h
  obtain ⟨next, asked, rfl⟩ := List.exists_cons_of_ne_nil hmore
  rw [join_cons, join_cons, join_cons, List.cons_append, List.cons_inj_right, List.append_assoc]
    at h
  exact hne (eq_of_append_slash hs hs' (join_eq_nil_or_head rest) h)

end Mount

end AuthGateway
