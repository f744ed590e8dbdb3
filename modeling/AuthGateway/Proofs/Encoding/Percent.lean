import AuthGateway.Encoding.Bytes
import AuthGateway.Proofs.Encoding.Utf8
import AuthGateway.Proofs.Text.Pieces

/-!
# What is lost in percent decoding

Three bytes that stand for one are no dots and no slashes.  So decoding lessens the number of the
other bytes (`weight`), unless it changes nothing (`decodeBytes_eq_of_weight_le`).  Of a
path it is that of the segments alone (`weightOf_intercalate`), however many slashes stand between
them.
-/

namespace AuthGateway.Percent

/-! ### Bytes -/

/-- How many bytes are neither a dot nor a slash. -/
def weight (b : Bytes) : Nat :=
  b.countP fun x => x ≠ 0x2E ∧ x ≠ 0x2F

theorem weight_append (b c : Bytes) : weight (b ++ c) = weight b + weight c :=
  List.countP_append

theorem weight_cons_of_ne {x : UInt8} (hdot : x ≠ 0x2E) (hslash : x ≠ 0x2F) (b : Bytes) :
    weight (x :: b) = weight b + 1 :=
  List.countP_cons_of_pos (decide_eq_true ⟨hdot, hslash⟩)

theorem weight_cons_le (x : UInt8) (b : Bytes) : weight (x :: b) ≤ weight b + 1 := by
  rw [weight, List.countP_cons, ← weight]
  split_ifs
  · exact Nat.le_refl _
  · exact Nat.le_succ _

/-- A digit is neither a dot nor a slash. -/
theorem ne_of_digit? {b x : UInt8} (h : digit? b = some x) : b ≠ 0x2E ∧ b ≠ 0x2F := by
  have hdot : digit? 0x2E = none := by decide
  have hslash : digit? 0x2F = none := by decide
  constructor
  · rintro rfl
    rw [hdot] at h
    exact absurd h (by simp)
  · rintro rfl
    rw [hslash] at h
    exact absurd h (by simp)

theorem ne_of_pair? {high low x : UInt8} (h : pair? high low = some x) :
    (high ≠ 0x2E ∧ high ≠ 0x2F) ∧ (low ≠ 0x2E ∧ low ≠ 0x2F) := by
  unfold pair? at h
  split at h
  · rename_i hhigh hlow
    exact ⟨ne_of_digit? hhigh, ne_of_digit? hlow⟩
  · exact absurd h (by simp)

/-- Where three bytes stand for one, two are lost. -/
theorem weight_triple {a b c x : UInt8} (h : (if a = sign then pair? b c else none) = some x)
    (rest : Bytes) : weight (a :: b :: c :: rest) = weight rest + 3 := by
  split_ifs at h with hsign
  obtain ⟨hb, hc⟩ := ne_of_pair? h
  rw [hsign, weight_cons_of_ne (by decide) (by decide), weight_cons_of_ne hb.1 hb.2,
    weight_cons_of_ne hc.1 hc.2]

theorem weight_decodeBytes_le (b : Bytes) : weight (decodeBytes b) ≤ weight b := by
  -- a byte that three others stand for weighs at most one, and they weigh three
  induction b using decodeBytes.induct with
  | case1 | case2 | case3 => exact Nat.le_refl _
  | case4 a b c rest x h ih =>
    have hlost := weight_triple h rest
    have hfirst := weight_cons_le x (decodeBytes rest)
    rw [decodeBytes, h]
    dsimp only
    omega
  | case5 a b c rest h ih =>
    rw [decodeBytes, h]
    dsimp only
    rw [← List.singleton_append, weight_append, ← List.singleton_append (l := b :: c :: rest),
      weight_append]
    omega

/-- Decoding changes nothing unless something is lost. -/
theorem decodeBytes_eq_of_weight_le {b : Bytes} (h : weight b ≤ weight (decodeBytes b)) :
    decodeBytes b = b := by
  induction b using decodeBytes.induct with
  | case1 | case2 | case3 => rfl
  | case4 a b c rest x hpair ih =>
    -- two are lost here, and none is won behind
    have hlost := weight_triple hpair rest
    have hfirst := weight_cons_le x (decodeBytes rest)
    have hrest := weight_decodeBytes_le rest
    rw [decodeBytes, hpair] at h
    dsimp only at h
    omega
  | case5 a b c rest hpair ih =>
    rw [decodeBytes, hpair] at h ⊢
    dsimp only at h ⊢
    rw [← List.singleton_append, weight_append, ← List.singleton_append (l := decodeBytes _),
      weight_append] at h
    rw [ih (by omega)]

/-! ### A slash at the end -/

theorem decodeBytes_ne_nil {b : Bytes} (h : b ≠ []) : decodeBytes b ≠ [] := by
  cases b using decodeBytes.fun_cases with
  | case1 => exact absurd rfl h
  | case2 | case3 => exact h
  | case4 a b c rest x hpair =>
    rw [decodeBytes, hpair]
    exact List.cons_ne_nil _ _
  | case5 a b c rest hpair =>
    rw [decodeBytes, hpair]
    exact List.cons_ne_nil _ _

/-- A slash is no digit, so that it stays at the end of what stands before it. -/
theorem decodeBytes_append_slash (b : Bytes) :
    decodeBytes (b ++ [0x2F]) = decodeBytes b ++ [0x2F] := by
  induction b using decodeBytes.induct with
  | case1 | case2 => rfl
  | case3 a b =>
    have hpair : pair? b 0x2F = none := by
      have hslash : digit? 0x2F = none := by decide
      unfold pair?
      rw [hslash]
      split
      · rename_i hlow
        exact absurd hlow (by simp)
      · rfl
    show decodeBytes [a, b, 0x2F] = [a, b, 0x2F]
    rw [decodeBytes, hpair, ite_self]
    rfl
  | case4 a b c rest x hpair ih =>
    rw [List.cons_append, List.cons_append, List.cons_append, decodeBytes, decodeBytes, hpair]
    dsimp only
    rw [ih, List.cons_append]
  | case5 a b c rest hpair ih =>
    rw [List.cons_append, List.cons_append, List.cons_append, decodeBytes, decodeBytes, hpair]
    dsimp only
    rw [← List.cons_append, ← List.cons_append, ih, List.cons_append]

/-! ### Texts -/

/-- How many bytes of a text are neither dots nor slashes. -/
def weightOf (s : List Char) : Nat :=
  weight (Utf8.bytesOf s)

/-- A text that is decoded loses something, unless it stays as it is. -/
theorem decode?_eq_self_of_weight_le {s t : String} (h : decode? s = some t)
    (hweight : weightOf s.toList ≤ weightOf t.toList) : t = s := by
  have hbytes := Utf8.encode_of_decode h
  unfold weightOf at hweight
  rw [← Utf8.encode_eq_bytesOf, ← Utf8.encode_eq_bytesOf, hbytes] at hweight
  rw [decode?, decodeBytes_eq_of_weight_le hweight, Utf8.decode_encode] at h
  exact (Option.some.inj h).symm

theorem weightOf_le_of_decode? {s t : String} (h : decode? s = some t) :
    weightOf t.toList ≤ weightOf s.toList := by
  have hbytes := Utf8.encode_of_decode h
  unfold weightOf
  rw [← Utf8.encode_eq_bytesOf, ← Utf8.encode_eq_bytesOf, hbytes]
  exact weight_decodeBytes_le _

theorem ne_empty_of_decode? {s t : String} (h : decode? s = some t) (hne : s ≠ "") : t ≠ "" := by
  rintro rfl
  have hbytes := Utf8.encode_of_decode h
  refine decodeBytes_ne_nil ?_ hbytes.symm
  intro hnil
  have hself := Utf8.decode_encode s
  rw [hnil] at hself
  exact hne (Option.some.inj hself).symm

/-- A slash at the end of a text stays there. -/
theorem decode?_append_slash {s t : String} (h : decode? s = some t) :
    decode? (s ++ "/") = some (t ++ "/") := by
  have hencode (u : String) : Utf8.encode (u ++ "/") = Utf8.encode u ++ [0x2F] := by
    rw [Utf8.encode_eq_bytesOf, Utf8.encode_eq_bytesOf, String.toList_append, Utf8.bytesOf_append]
    rfl
  rw [decode?, hencode, decodeBytes_append_slash, ← Utf8.encode_of_decode h, ← hencode,
    Utf8.decode_encode]

theorem weightOf_append (s t : List Char) : weightOf (s ++ t) = weightOf s + weightOf t := by
  rw [weightOf, Utf8.bytesOf_append, weight_append]
  rfl

/-- The slashes between the segments of a path weigh nothing. -/
theorem weightOf_intercalate (pieces : List (List Char)) :
    weightOf (['/'].intercalate pieces) = weightOf pieces.flatten := by
  have hslash : weightOf ['/'] = 0 := by decide
  induction pieces with
  | nil => rfl
  | cons piece rest ih =>
    rw [List.flatten_cons, weightOf_append, ← ih]
    cases rest with
    | nil =>
      rw [List.intercalate_singleton]
      rfl
    | cons next rest =>
      rw [List.intercalate_cons_cons, weightOf_append, weightOf_append, hslash, Nat.add_zero]

end AuthGateway.Percent
