/-!
# Steps that can fail

Steps are taken one after another until one of them fails.  What two steps give together is told by
what each of them gives (`bind_eq_ok_iff`, `bind_eq_error_iff`), and two rows of steps are compared
by a relation on what they end with (`Matches`).
-/

namespace AuthGateway

section Steps

variable {ε ε' α β : Type} {x : Except ε α}

/-! ### Steps in a row -/

/-- What succeeds in two steps succeeds in each of them. -/
theorem bind_eq_ok_iff {f : α → Except ε β} {b : β} :
    x >>= f = .ok b ↔ ∃ a, x = .ok a ∧ f a = .ok b := by
  cases x with
  | error e => simp [bind, Except.bind]
  | ok a => simp [bind, Except.bind]

/-- What fails in two steps fails in one of them. -/
theorem bind_eq_error_iff {f : α → Except ε β} {e : ε} :
    x >>= f = .error e ↔ x = .error e ∨ ∃ a, x = .ok a ∧ f a = .error e := by
  cases x with
  | error e' => simp [bind, Except.bind]
  | ok a => simp [bind, Except.bind]

/-- What succeeds behind a map succeeded before it. -/
theorem exists_of_map_eq_ok {f : α → β} {b : β} (h : x.map f = .ok b) :
    ∃ a, x = .ok a ∧ f a = b := by
  cases x with
  | error e => exact absurd h (by simp [Except.map])
  | ok a => exact ⟨a, rfl, Except.ok.inj h⟩

/-- Errors of two steps can be renamed in each of them. -/
theorem mapError_bind_eq (f : ε → ε') (x : Except ε α) (g : α → Except ε β) :
    (x >>= g).mapError f = x.mapError f >>= fun a => (g a).mapError f := by
  cases x with
  | error e => rfl
  | ok a => rfl

end Steps

/-! ### Steps side by side -/

/-- Whether two steps fail with the same error, or succeed with results in a relation. -/
inductive Matches {ε α : Type} (R : α → α → Prop) : Except ε α → Except ε α → Prop where
  | ok {a b : α} (h : R a b) : Matches R (.ok a) (.ok b)
  | error (e : ε) : Matches R (.error e) (.error e)

namespace Matches

variable {ε α β : Type} {R R' : α → α → Prop} {x y : Except ε α}

theorem of_eq (hR : ∀ a, R a a) (h : x = y) : Matches R x y := by
  rw [h]
  cases y with
  | ok a => exact .ok (hR a)
  | error e => exact .error e

/-- Steps match for equal results only when they are equal. -/
theorem eq (hR : ∀ a b, R a b → a = b) (h : Matches R x y) : x = y := by
  cases h with
  | ok h => rw [hR _ _ h]
  | error e => rfl

theorem mono (h : Matches R x y) (hR : ∀ a b, R a b → R' a b) : Matches R' x y := by
  cases h with
  | ok h => exact .ok (hR _ _ h)
  | error e => exact .error e

theorem map {S : β → β → Prop} {f g : α → β} (h : Matches R x y)
    (hfg : ∀ a b, R a b → S (f a) (g b)) : Matches S (x.map f) (y.map g) := by
  cases h with
  | ok h => exact .ok (hfg _ _ h)
  | error e => exact .error e

/-- Where one step succeeds, so does the other. -/
theorem exists_of_ok {a : α} (h : Matches R x y) (hx : x = .ok a) : ∃ b, y = .ok b ∧ R a b := by
  cases h with
  | ok h =>
    obtain rfl := Except.ok.inj hx
    exact ⟨_, rfl, h⟩
  | error e => exact absurd hx (by simp)

end Matches

end AuthGateway
