import AuthGateway.Number.Shortest
import Mathlib.Tactic.SplitIfs

/-!
# The characters of positional decimals

The shortest decimal of a number has nothing but digits (`Decimal.isDigit_of_mem_shortest`), so its
positional form has nothing but digits, a sign and a point (`Decimal.mem_positional`).
-/

namespace AuthGateway.Decimal

variable {c : Char}

theorem isDigit_of_mem_significantDigits {n : Nat} (h : c ∈ significantDigits n) :
    c.isDigit = true := by
  have hsuffix := List.dropWhile_suffix (l := (Nat.toDigits 10 n).reverse) (· == '0')
  have hmem : c ∈ (Nat.toDigits 10 n).reverse := hsuffix.subset (List.mem_reverse.1 h)
  exact Nat.isDigit_of_mem_toDigits (by decide) (by decide) (List.mem_reverse.1 hmem)

/-- The search looks at natural numbers and takes their digits. -/
theorem isDigit_of_mem_search {i : Interval} {magnitude : Int} {digits fuel : Nat}
    (h : c ∈ (search i magnitude digits fuel).digits) : c.isDigit = true := by
  induction fuel generalizing digits with
  | zero =>
    obtain rfl : c = '0' := List.mem_singleton.1 h
    rfl
  | succ fuel ih =>
    rw [search] at h
    split at h
    · exact isDigit_of_mem_significantDigits h
    · exact ih h

theorem isDigit_of_mem_shortest {x : Binary64} (h : c ∈ (shortest x).digits) :
    c.isDigit = true := by
  unfold shortest at h
  split_ifs at h
  · obtain rfl : c = '0' := List.mem_singleton.1 h
    rfl
  · exact isDigit_of_mem_search h

/-- On both sides of the point there are digits of the decimal, and zeros. -/
theorem isDigit_of_mem_split {d : Decimal} (hd : ∀ c ∈ d.digits, c.isDigit = true)
    (h : c ∈ d.split.1 ++ d.split.2) : c.isDigit = true := by
  have hzeros {n : Nat} (hc : c ∈ List.replicate n '0') : c.isDigit = true := by
    rw [List.eq_of_mem_replicate hc]
    rfl
  unfold split at h
  split_ifs at h
  · rcases List.mem_append.1 h with h | h
    · obtain rfl : c = '0' := List.mem_singleton.1 h
      rfl
    · exact (List.mem_append.1 h).elim hzeros (hd c)
  · rcases List.mem_append.1 h with h | h
    · exact (List.mem_append.1 h).elim (fun hc => hd c (List.mem_of_mem_take hc)) hzeros
    · exact hd c (List.mem_of_mem_drop h)

/-- A positional decimal is written with digits, a sign and a point. -/
theorem mem_positional {x : Binary64} (h : c ∈ positional x) :
    c.isDigit = true ∨ c = '-' ∨ c = '.' := by
  have hdigits : c ∈ (shortest x).split.1 ++ (shortest x).split.2 → c.isDigit = true :=
    isDigit_of_mem_split fun _ => isDigit_of_mem_shortest
  rw [List.mem_append] at hdigits
  unfold positional at h
  dsimp only at h
  rw [List.mem_append, List.mem_append] at h
  rcases h with (h | h) | h
  · split_ifs at h
    · exact Or.inr (Or.inl (List.mem_singleton.1 h))
    · exact absurd h List.not_mem_nil
  · exact Or.inl (hdigits (Or.inl h))
  · split_ifs at h
    · exact absurd h List.not_mem_nil
    · rcases List.mem_cons.1 h with h | h
      · exact Or.inr (Or.inr h)
      · exact Or.inl (hdigits (Or.inr h))

end AuthGateway.Decimal
