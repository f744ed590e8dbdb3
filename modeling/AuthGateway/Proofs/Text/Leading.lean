import AuthGateway.Text.Basic
import Mathlib.Tactic.SplitIfs

/-!
# Taking texts apart

A leading piece is what a text begins with (`after?_eq_some_iff`), and a text is cut where a
character stands for the first time (`cutAt?_eq_some_iff`), if it does (`cutAt?_eq_none`).
-/

namespace AuthGateway.Text

/-! ### Leading pieces -/

/-- What is left of a text is what follows the leading piece. -/
theorem after?_eq_some_iff {lead s rest : List Char} :
    after? lead s = some rest ↔ s = lead ++ rest := by
  induction lead generalizing s with
  | nil => exact Option.some_inj
  | cons c lead ih =>
    cases s with
    | nil => simp [after?]
    | cons d s =>
      rw [after?]
      split_ifs with hcd
      · rw [ih, hcd, List.cons_append, List.cons_inj_right]
      · constructor
        · intro h
          exact absurd h (by simp)
        · intro h
          exact absurd (List.cons.inj h).1.symm hcd

@[simp]
theorem after?_append_self (lead rest : List Char) : after? lead (lead ++ rest) = some rest :=
  after?_eq_some_iff.2 rfl

/-- Leading pieces that agree do not matter. -/
theorem after?_append_append (front lead s : List Char) :
    after? (front ++ lead) (front ++ s) = after? lead s := by
  induction front with
  | nil => rfl
  | cons c front ih => rw [List.cons_append, List.cons_append, after?, if_pos rfl, ih]

theorem beginsWith_iff {lead s : List Char} :
    beginsWith lead s = true ↔ ∃ rest, s = lead ++ rest := by
  rw [beginsWith, Option.isSome_iff_exists]
  simp only [after?_eq_some_iff]

/-! ### Cutting at a character -/

/-- A text is cut where a character stands for the first time. -/
theorem cutAt?_eq_some_iff {c : Char} {s a b : List Char} :
    cutAt? c s = some (a, b) ↔ c ∉ a ∧ s = a ++ c :: b := by
  induction s generalizing a with
  | nil => simp [cutAt?]
  | cons d s ih =>
    rw [cutAt?]
    by_cases hd : d = c
    · rw [if_pos hd, Option.some.injEq, Prod.mk.injEq]
      constructor
      · rintro ⟨rfl, rfl⟩
        exact ⟨List.not_mem_nil, by rw [hd]; rfl⟩
      · rintro ⟨hc, hs⟩
        -- a first part that is not empty would begin with the character it is free of
        cases a with
        | nil => exact ⟨rfl, (List.cons.inj hs).2⟩
        | cons e a =>
          obtain ⟨rfl, -⟩ := List.cons.inj hs
          exact absurd (hd ▸ List.mem_cons_self) hc
    · rw [if_neg hd, Option.map_eq_some_iff]
      constructor
      · rintro ⟨⟨a', b'⟩, hcut, heq⟩
        obtain ⟨rfl, rfl⟩ := Prod.mk.inj heq
        obtain ⟨hc, rfl⟩ := ih.1 hcut
        refine ⟨?_, rfl⟩
        rw [List.mem_cons, not_or]
        exact ⟨Ne.symm hd, hc⟩
      · rintro ⟨hc, hs⟩
        cases a with
        | nil => exact absurd (List.cons.inj hs).1 hd
        | cons e a =>
          obtain ⟨rfl, rfl⟩ := List.cons.inj hs
          rw [List.mem_cons, not_or] at hc
          exact ⟨(a, b), ih.2 ⟨hc.2, rfl⟩, rfl⟩

theorem cutAt?_eq_none {c : Char} {s : List Char} (h : c ∉ s) : cutAt? c s = none := by
  rw [Option.eq_none_iff_forall_ne_some]
  rintro ⟨a, b⟩ hcut
  obtain ⟨-, rfl⟩ := cutAt?_eq_some_iff.1 hcut
  exact h (List.mem_append_right a List.mem_cons_self)

end AuthGateway.Text
