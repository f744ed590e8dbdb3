import AuthGateway.Proofs.Text.Leading

/-!
# Pieces of a text

A text is cut at every occurrence of a separator.  Its pieces are the only ones without the separator
that make up the text when the separator is put between them (`splitOn_eq_iff`), and a piece is what
stands between two separators, or between a separator and an end (`mem_splitOn_iff`).
-/

namespace AuthGateway.Text

variable {c : Char} {piece s : List Char}

/-! ### One piece -/

/-- What stands between two separators of a text, or between a separator and an end of it. -/
def IsPiece (c : Char) (piece s : List Char) : Prop :=
  c ∉ piece ∧ ∃ front back, s = front ++ piece ++ back
    ∧ (front = [] ∨ front.getLast? = some c) ∧ (back = [] ∨ back.head? = some c)

/-- A text without separators is its only piece. -/
theorem isPiece_self (h : c ∉ s) : IsPiece c s s := by
  refine ⟨h, [], [], ?_, Or.inl rfl, Or.inl rfl⟩
  rw [List.nil_append, List.append_nil]

/-- The first piece ends at the first separator. -/
theorem isPiece_append (h : c ∉ piece) (rest : List Char) : IsPiece c piece (piece ++ c :: rest) :=
  ⟨h, [], c :: rest, by rw [List.nil_append], Or.inl rfl, Or.inr rfl⟩

/-- What is a piece behind a separator is a piece of the whole. -/
theorem IsPiece.append (h : IsPiece c piece s) (front : List Char) :
    IsPiece c piece (front ++ c :: s) := by
  obtain ⟨hc, before, after, rfl, hbefore, hafter⟩ := h
  refine ⟨hc, front ++ c :: before, after, by simp, Or.inr ?_, hafter⟩
  rw [List.getLast?_append, List.getLast?_cons, Option.some_or]
  rcases hbefore with rfl | hlast
  · rfl
  · rw [hlast, Option.getD_some]

/-- Cutting gives the pieces. -/
theorem mem_splitOn_iff : piece ∈ s.splitOn c ↔ IsPiece c piece s := by
  constructor
  · intro h
    -- the induction is on what is left of the text behind its first separator
    induction hn : s.length using Nat.strongRecOn generalizing s with
    | ind n ih =>
      by_cases hc : c ∈ s
      · obtain ⟨first, rest, rfl, hfirst⟩ := List.eq_append_cons_of_mem hc
        rw [List.splitOn_append_cons_self_of_not_mem hfirst, List.mem_cons] at h
        rcases h with rfl | h
        · exact isPiece_append hfirst rest
        · have hlength : rest.length < n := by
            rw [← hn, List.length_append, List.length_cons]
            omega
          exact (ih rest.length hlength h rfl).append first
      · rw [List.splitOn_eq_singleton hc, List.mem_singleton] at h
        rw [h]
        exact isPiece_self hc
  · rintro ⟨hc, front, back, rfl, hfront, hback⟩
    have hrest : piece ∈ (piece ++ back).splitOn c := by
      rcases hback with rfl | hback
      · rw [List.append_nil, List.splitOn_eq_singleton hc]
        exact List.mem_singleton_self piece
      · obtain ⟨rest, rfl⟩ := List.head?_eq_some_iff.1 hback
        rw [List.splitOn_append_cons_self_of_not_mem hc]
        exact List.mem_cons_self
    rw [List.append_assoc]
    rcases hfront with rfl | hfront
    · exact hrest
    · obtain ⟨others, rfl⟩ := List.getLast?_eq_some_iff.1 hfront
      rw [List.append_assoc, List.singleton_append, List.splitOn_append_cons_self]
      exact List.mem_append_right _ hrest

/-! ### All pieces -/

/-- A character of a text that is put together is the separator or stands in a piece. -/
theorem mem_intercalate {pieces : List (List Char)} {d : Char} (h : d ∈ [c].intercalate pieces) :
    d = c ∨ ∃ piece ∈ pieces, d ∈ piece := by
  induction pieces with
  | nil => exact absurd h List.not_mem_nil
  | cons piece rest ih =>
    cases rest with
    | nil =>
      rw [List.intercalate_singleton] at h
      exact Or.inr ⟨piece, List.mem_cons_self, h⟩
    | cons next rest =>
      rw [List.intercalate_cons_cons, List.mem_append, List.mem_append, List.mem_singleton] at h
      rcases h with (h | h) | h
      · exact Or.inr ⟨piece, List.mem_cons_self, h⟩
      · exact Or.inl h
      · rcases ih h with h | ⟨piece', hpiece', h⟩
        · exact Or.inl h
        · exact Or.inr ⟨piece', List.mem_cons_of_mem piece hpiece', h⟩

/-- The pieces are free of the separator and make up the text, and no others do. -/
theorem splitOn_eq_iff {pieces : List (List Char)} :
    s.splitOn c = pieces
      ↔ pieces ≠ [] ∧ (∀ piece ∈ pieces, c ∉ piece) ∧ [c].intercalate pieces = s := by
  constructor
  · rintro rfl
    exact ⟨List.splitOn_ne_nil c s, fun piece h => (mem_splitOn_iff.1 h).1,
      List.intercalate_splitOn c⟩
  · rintro ⟨hne, hfree, rfl⟩
    exact List.splitOn_intercalate c hfree hne

end AuthGateway.Text
