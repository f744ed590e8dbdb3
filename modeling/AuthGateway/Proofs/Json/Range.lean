import AuthGateway.Proofs.Number.Precision

/-!
# Numbers that are read

A number that was read is an integer of 64 bits, signed or unsigned, or a number of the floating
point format (`Json.isWord_of_ofLiteral`); so are all numbers among the bindings of an object that
was read (`Json.isWord_of_ofRawMembers`).
-/

namespace AuthGateway.Json

open Binary64 (IsPrecise)

/-- Whether a number is one that is read: an integer of 64 bits, or one of the floating point
format. -/
def Number.IsWord : Number → Prop
  | .integer n => -2 ^ 63 ≤ n ∧ n < 2 ^ 64
  | .float x => x.IsPrecise

variable {x y : Binary64}

theorem takeDigits_lt {n : Nat} (hn : n < UInt64.size) (ds : List Nat) :
    (takeDigits n ds).1 < UInt64.size := by
  induction ds generalizing n with
  | nil => exact hn
  | cons d ds ih =>
    rw [takeDigits]
    split_ifs with hd
    · exact ih hd
    · exact hn

theorem isPrecise_of_scaleDown {e : Nat} (hx : x.IsPrecise) (h : scaleDown x e = some y) :
    y.IsPrecise := by
  induction e using Nat.strongRecOn generalizing x with
  | ind e ih =>
    rw [scaleDown] at h
    split_ifs at h with hsmall hzero
    · exact Binary64.isPrecise_of_div h
    · rw [← Option.some.inj h]
      exact hx
    · obtain ⟨z, hz, h⟩ := Option.bind_eq_some_iff.1 h
      exact ih (e - 308) (by omega) (Binary64.isPrecise_of_div hz) h

theorem isPrecise_of_floatOf {significand : Nat} {exponent : Int}
    (h : floatOf significand exponent = some y) : y.IsPrecise := by
  have hx := Binary64.isPrecise_ofNat significand
  unfold floatOf at h
  dsimp only at h
  split_ifs at h
  · exact isPrecise_of_scaleDown hx h
  · exact Binary64.isPrecise_of_mul h
  · rw [← Option.some.inj h]
    exact hx

theorem isWord_signed (negative : Bool) (hx : x.IsPrecise) : (signed negative x).IsWord := by
  unfold signed
  cases negative with
  | false => exact hx
  | true => exact hx.neg

theorem isWord_of_map_signed {o : Option Binary64} {negative : Bool} {n : Number}
    (ho : ∀ x, o = some x → x.IsPrecise) (h : o.map (signed negative) = some n) : n.IsWord := by
  obtain ⟨x, hx, rfl⟩ := Option.map_eq_some_iff.1 h
  exact isWord_signed negative (ho x hx)

theorem isWord_of_ofLiteral {l : NumberLiteral} {n : Number} (h : ofLiteral l = some n) :
    n.IsWord := by
  have hwhole := takeDigits_lt (by decide : 0 < UInt64.size) l.whole
  unfold ofLiteral at h
  dsimp only at h
  split at h
  · split_ifs at h with hpositive hfits
    · rw [← Option.some.inj h]
      rw [UInt64.size] at hwhole
      exact ⟨by omega, by omega⟩
    · rw [← Option.some.inj h]
      exact ⟨by omega, by omega⟩
    · rw [← Option.some.inj h]
      exact isWord_signed true (Binary64.isPrecise_ofNat _)
  · split at h
    · exact isWord_of_map_signed (fun _ => isPrecise_of_floatOf) h
    · split_ifs at h
      · exact isWord_of_map_signed (fun _ => isPrecise_of_floatOf) h
      · exact isWord_of_map_signed (fun _ => isPrecise_of_floatOf) h
      · rw [← Option.some.inj h]
        exact isWord_signed _ (Binary64.isPrecise_zero false)

/-- The numbers among the bindings of an object that was read. -/
theorem isWord_of_ofRawMembers {members : List (List StringPiece × Raw)}
    {bindings : List (String × Json)} (h : ofRawMembers members = some bindings) {name : String}
    {n : Number} (hn : (name, .number n) ∈ bindings) : n.IsWord := by
  induction members generalizing bindings with
  | nil =>
    rw [ofRawMembers] at h
    rw [← Option.some.inj h] at hn
    exact absurd hn List.not_mem_nil
  | cons member members ih =>
    obtain ⟨pieces, raw⟩ := member
    rw [ofRawMembers] at h
    obtain ⟨text, -, h⟩ := Option.bind_eq_some_iff.1 h
    obtain ⟨value, hvalue, h⟩ := Option.bind_eq_some_iff.1 h
    obtain ⟨rest, hrest, h⟩ := Option.bind_eq_some_iff.1 h
    obtain rfl := Option.some.inj h
    rcases List.mem_cons.1 hn with heq | hn
    · obtain ⟨-, rfl⟩ := Prod.mk.inj heq
      -- only the literal of a number is read as a number
      cases raw with
      | number l =>
        rw [ofRaw] at hvalue
        obtain ⟨n', hn', heq⟩ := Option.map_eq_some_iff.1 hvalue
        obtain rfl := Json.number.inj heq
        exact isWord_of_ofLiteral hn'
      | null | bool =>
        rw [ofRaw] at hvalue
        simp at hvalue
      | string | array | object =>
        rw [ofRaw] at hvalue
        obtain ⟨_, -, heq⟩ := Option.map_eq_some_iff.1 hvalue
        exact absurd heq (by simp [ofBindings])
    · exact ih hrest hn

end AuthGateway.Json
