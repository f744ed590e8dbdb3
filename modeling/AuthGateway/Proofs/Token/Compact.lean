import AuthGateway.Proofs.Encoding.Base64
import AuthGateway.Proofs.Text.Leading
import AuthGateway.Token.Size

/-!
# Cutting tokens apart

A token is cut at its last two dots, so its segments are those of a compact token exactly when the
payload and the signature hold no dot (`ofChars?_eq_some_iff`).  The texts of bytes hold no dots:
where the header is one as well, the token has three segments and no more (`splitOn_toChars`).
-/

namespace AuthGateway

namespace CompactToken

/-- A text is cut where a dot stands for the last time. -/
theorem cutAtLastDot?_eq_some_iff {s a b : List Char} :
    cutAtLastDot? s = some (a, b) ↔ '.' ∉ b ∧ s = a ++ '.' :: b := by
  -- the last dot is the first one from behind
  have hcut : cutAtLastDot? s = some (a, b)
      ↔ Text.cutAt? '.' s.reverse = some (b.reverse, a.reverse) := by
    rw [cutAtLastDot?, Option.map_eq_some_iff]
    constructor
    · rintro ⟨⟨after, before⟩, h, heq⟩
      obtain ⟨rfl, rfl⟩ := Prod.mk.inj heq
      rw [h, List.reverse_reverse, List.reverse_reverse]
    · intro h
      exact ⟨_, h, Prod.ext a.reverse_reverse b.reverse_reverse⟩
  rw [hcut, Text.cutAt?_eq_some_iff, List.mem_reverse]
  refine and_congr_right fun _ => ?_
  rw [← List.reverse_inj]
  simp

/-- The segments of a token: neither the payload nor the signature holds a dot. -/
theorem ofChars?_eq_some_iff {s : List Char} {t : CompactToken} :
    ofChars? s = some t ↔ '.' ∉ t.payload ∧ '.' ∉ t.signature ∧ s = t.toChars := by
  obtain ⟨header, payload, signature⟩ := t
  rw [ofChars?]
  constructor
  · intro h
    obtain ⟨⟨message, signature'⟩, hmessage, h⟩ := Option.bind_eq_some_iff.1 h
    obtain ⟨⟨header', payload'⟩, hheader, h⟩ := Option.bind_eq_some_iff.1 h
    obtain ⟨rfl, rfl, rfl⟩ := CompactToken.mk.inj (Option.some.inj h)
    obtain ⟨hsignature, rfl⟩ := cutAtLastDot?_eq_some_iff.1 hmessage
    obtain ⟨hpayload, rfl⟩ := cutAtLastDot?_eq_some_iff.1 hheader
    exact ⟨hpayload, hsignature, rfl⟩
  · rintro ⟨hpayload, hsignature, rfl⟩
    have hmessage : cutAtLastDot? (toChars ⟨header, payload, signature⟩)
        = some (header ++ '.' :: payload, signature) :=
      cutAtLastDot?_eq_some_iff.2 ⟨hsignature, rfl⟩
    have hheader : cutAtLastDot? (header ++ '.' :: payload) = some (header, payload) :=
      cutAtLastDot?_eq_some_iff.2 ⟨hpayload, rfl⟩
    rw [hmessage]
    show ((cutAtLastDot? (header ++ '.' :: payload)).bind _) = _
    rw [hheader]
    rfl

/-- Segments without dots are the pieces of the token between its dots. -/
theorem splitOn_toChars {t : CompactToken} (hheader : '.' ∉ t.header) (hpayload : '.' ∉ t.payload)
    (hsignature : '.' ∉ t.signature) :
    t.toChars.splitOn '.' = [t.header, t.payload, t.signature] := by
  rw [toChars, message, List.append_assoc, List.cons_append,
    List.splitOn_append_cons_self_of_not_mem hheader,
    List.splitOn_append_cons_self_of_not_mem hpayload, List.splitOn_eq_singleton hsignature]

/-! ### Segments -/

/-- A segment for some bytes reads as these bytes, and nothing else does. -/
theorem segmentBytes?_eq_some_iff {s : List Char} {b : Bytes} :
    segmentBytes? s = some b ↔ s = segment b :=
  Base64.decode_eq_some_iff

theorem dot_not_mem_segment (b : Bytes) : '.' ∉ segment b :=
  Base64.dot_not_mem_encode b

theorem segment_ne_nil {b : Bytes} (h : b ≠ []) : segment b ≠ [] :=
  Base64.encode_ne_nil h

end CompactToken

end AuthGateway
