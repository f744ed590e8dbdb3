import AuthGateway.Proofs.Json.Integer
import AuthGateway.Proofs.Json.Order
import AuthGateway.Proofs.Json.Text
import Mathlib.Data.Option.Basic

/-!
# Values read back from their texts

`Json.IsExact` describes the values that a text keeps exactly: their numbers are integers of 64
bits, their objects are in order, and containers are nested no deeper than a reader goes.  Such a
value reads back from its text (`ofBytes?_print`).

Reading has its structure from the grammar, so every lexeme of a text is read by one step lemma:
words, strings, numbers and the brackets of containers (`readValue_string`, `readValue_array`,
`readItems_more` and so on).  The induction is on the value and says `ReadsBack`: wherever the text
of the value stands, followed by something that ends a value, the reader takes the text and leaves
what follows, and what it took means the value.  Fuel is bounded by twice the length of the text,
because a container and its first item each cost one unit before a byte is read.
-/

namespace AuthGateway.Json

/-- The values that a text keeps, with at most `depth` containers inside each other: numbers are
integers of 64 bits, signed or unsigned, and objects are in order. -/
inductive IsExact : Nat → Json → Prop where
  | null {depth : Nat} : IsExact depth .null
  | bool {depth : Nat} (b : Bool) : IsExact depth (.bool b)
  | integer {depth : Nat} {n : Int} (hlo : -2 ^ 63 ≤ n) (hhi : n < 2 ^ 64) :
    IsExact depth (.number (.integer n))
  | string {depth : Nat} (s : String) : IsExact depth (.string s)
  | array {depth : Nat} {items : List Json} (h : ∀ v ∈ items, IsExact depth v) :
    IsExact (depth + 1) (.array items)
  | object {depth : Nat} {members : Members} (hsorted : members.IsSorted)
    (h : ∀ b ∈ members, IsExact depth b.2) : IsExact (depth + 1) (.object members)

namespace Raw

/-! ### Steps of reading -/

theorem readValue_string (fuel depth : Nat) (s : Bytes) :
    readValue (fuel + 1) depth (0x22 :: s)
      = (readString s).map fun r => (.string r.1, r.2) := by
  rw [readValue.eq_2]
  show ((readString s).bind fun r => some (Raw.string r.1, r.2)) = _
  cases readString s <;> rfl

/-- A byte at the front that is no space stays there. -/
theorem skipSpaces_cons {b : UInt8} (h : isSpace b = false) (s : Bytes) :
    skipSpaces (b :: s) = b :: s := by
  rw [skipSpaces, List.dropWhile_cons, h]
  rfl

/-- What begins like no other value is read as a number. -/
theorem readValue_number {b : UInt8} (hspace : isSpace b = false)
    (hb : b ∉ [0x7B, 0x5B, 0x22, 0x6E, 0x74, 0x66]) (fuel depth : Nat) (s : Bytes) :
    readValue (fuel + 1) depth (b :: s)
      = (readNumber (b :: s)).map fun r => (.number r.1, r.2) := by
  simp only [List.mem_cons, List.not_mem_nil, or_false, not_or] at hb
  obtain ⟨hbrace, hbracket, hquote, hn, ht, hf⟩ := hb
  rw [readValue.eq_2, skipSpaces_cons hspace]
  split
  · rename_i heq
    exact absurd (List.cons.inj heq).1 hbrace
  · rename_i heq
    exact absurd (List.cons.inj heq).1 hbracket
  · rename_i heq
    exact absurd (List.cons.inj heq).1 hquote
  · split
    · rename_i heq
      exact absurd (List.cons.inj heq).1 hn
    · rename_i heq
      exact absurd (List.cons.inj heq).1 ht
    · rename_i heq
      exact absurd (List.cons.inj heq).1 hf
    · cases readNumber (b :: s) <;> rfl

theorem readValue_array {b : UInt8} (hspace : isSpace b = false) (hb : b ≠ 0x5D)
    (fuel depth : Nat) (s : Bytes) :
    readValue (fuel + 1) (depth + 1) (0x5B :: b :: s)
      = (readItems fuel depth (b :: s)).map fun r => (.array r.1, r.2) := by
  rw [readValue.eq_2]
  -- the bracket is seen, and the depth leaves room for one container
  show (some ()).bind _ = _
  rw [Option.bind_some, skipSpaces_cons hspace]
  split
  · rename_i heq
    exact absurd (List.cons.inj heq).1 hb
  · show ((readItems fuel depth (b :: s)).bind fun r => some (Raw.array r.1, r.2)) = _
    cases readItems fuel depth (b :: s) <;> rfl

theorem readValue_object (fuel depth : Nat) (s : Bytes) :
    readValue (fuel + 1) (depth + 1) (0x7B :: 0x22 :: s)
      = (readMembers fuel depth (0x22 :: s)).map fun r => (.object r.1, r.2) := by
  rw [readValue.eq_2]
  show ((readMembers fuel depth (0x22 :: s)).bind fun r => some (Raw.object r.1, r.2)) = _
  cases readMembers fuel depth (0x22 :: s) <;> rfl

theorem readItems_last {fuel depth : Nat} {s rest : Bytes} {item : Raw}
    (h : readValue fuel depth s = some (item, 0x5D :: rest)) :
    readItems (fuel + 1) depth s = some ([item], rest) := by
  rw [readItems, h]
  rfl

theorem readItems_more {fuel depth : Nat} {s rest : Bytes} {item : Raw}
    (h : readValue fuel depth s = some (item, 0x2C :: rest)) :
    readItems (fuel + 1) depth s
      = (readItems fuel depth rest).map fun r => (item :: r.1, r.2) := by
  rw [readItems, h]
  show ((readItems fuel depth rest).bind fun r => some (item :: r.1, r.2)) = _
  cases readItems fuel depth rest <;> rfl

theorem readMembers_last {fuel depth : Nat} {s value rest : Bytes} {name : List StringPiece}
    {item : Raw} (hname : readString s = some (name, 0x3A :: value))
    (h : readValue fuel depth value = some (item, 0x7D :: rest)) :
    readMembers (fuel + 1) depth (0x22 :: s) = some ([(name, item)], rest) := by
  rw [readMembers.eq_2]
  show ((readString s).bind _) = _
  rw [hname]
  show ((readValue fuel depth value).bind _) = _
  rw [h]
  rfl

theorem readMembers_more {fuel depth : Nat} {s value rest : Bytes} {name : List StringPiece}
    {item : Raw} (hname : readString s = some (name, 0x3A :: value))
    (h : readValue fuel depth value = some (item, 0x2C :: rest)) :
    readMembers (fuel + 1) depth (0x22 :: s)
      = (readMembers fuel depth rest).map fun r => ((name, item) :: r.1, r.2) := by
  rw [readMembers.eq_2]
  show ((readString s).bind _) = _
  rw [hname]
  show ((readValue fuel depth value).bind _) = _
  rw [h]
  show ((readMembers fuel depth rest).bind fun r => some ((name, item) :: r.1, r.2)) = _
  cases readMembers fuel depth rest <;> rfl

end Raw

/-! ### Texts of values -/

/-- Whether a byte may begin the text of an exact value. -/
def startsValue (b : UInt8) : Bool :=
  [0x6E, 0x74, 0x66, 0x22, 0x5B, 0x7B, 0x2D].contains b || (0x30 ≤ b && b ≤ 0x39)

/-- No value begins with a space. -/
theorem isSpace_of_startsValue {b : UInt8} (h : startsValue b) : Raw.isSpace b = false := by
  by_contra hspace
  rw [Bool.not_eq_false] at hspace
  have hb : b = 0x20 ∨ b = 0x09 ∨ b = 0x0A ∨ b = 0x0D := by
    simpa only [Raw.isSpace, Bool.or_eq_true, beq_iff_eq, or_assoc] using hspace
  rcases hb with rfl | rfl | rfl | rfl <;> exact absurd h (by decide)

/-- No value begins like the end of an array. -/
theorem ne_bracket_of_startsValue {b : UInt8} (h : startsValue b) : b ≠ 0x5D := by
  rintro rfl
  exact absurd h (by decide)

/-- The text of an integer begins with a digit or a minus sign. -/
theorem bytesOf_printInt_head (n : Int) :
    ∃ b s, Utf8.bytesOf (printInt n) = b :: s ∧ startsValue b
      ∧ b ∉ [0x7B, 0x5B, 0x22, 0x6E, 0x74, 0x66] := by
  rw [printInt]
  split_ifs with hn
  · refine ⟨0x2D, Utf8.bytesOf (Nat.toDigits 10 n.natAbs), ?_, by decide, by decide⟩
    exact Utf8.bytesOf_cons_ascii (by decide) _
  · obtain ⟨d, ds, hds, -⟩ := digitsOf_head n.natAbs
    have hd : d < 10 := lt_of_mem_digitsOf n.natAbs d (by rw [hds]; exact List.mem_cons_self)
    have hdigit : ∀ d < 10, startsValue (digitByte d)
        ∧ digitByte d ∉ [0x7B, 0x5B, 0x22, 0x6E, 0x74, 0x66] := by decide
    exact ⟨digitByte d, ds.map digitByte, by rw [bytesOf_toDigits, hds]; rfl, hdigit d hd⟩

/-- The text of an exact value begins like a value. -/
theorem bytesOf_printChars_head {depth : Nat} {v : Json} (h : IsExact depth v) :
    ∃ b s, Utf8.bytesOf (printChars v) = b :: s ∧ startsValue b := by
  cases h with
  | null => exact ⟨0x6E, [0x75, 0x6C, 0x6C], rfl, by decide⟩
  | bool b =>
    cases b with
    | false => exact ⟨0x66, [0x61, 0x6C, 0x73, 0x65], rfl, by decide⟩
    | true => exact ⟨0x74, [0x72, 0x75, 0x65], rfl, by decide⟩
  | @integer _ n hlo hhi =>
    obtain ⟨b, s, hbytes, hstart, -⟩ := bytesOf_printInt_head n
    exact ⟨b, s, by rw [printChars]; exact hbytes, hstart⟩
  | string s =>
    exact ⟨0x22, _, by rw [printChars]; exact Utf8.bytesOf_cons_ascii (by decide) _, by decide⟩
  | array _ =>
    exact ⟨0x5B, _, by rw [printChars]; exact Utf8.bytesOf_cons_ascii (by decide) _, by decide⟩
  | object _ _ =>
    exact ⟨0x7B, _, by rw [printChars]; exact Utf8.bytesOf_cons_ascii (by decide) _, by decide⟩

/-- The text of a string, in bytes. -/
theorem bytesOf_printString (s : String) :
    Utf8.bytesOf (printString s)
      = 0x22 :: (Utf8.bytesOf (s.toList.flatMap escapeChar) ++ [0x22]) := by
  rw [printString, List.cons_append, Utf8.bytesOf_cons_ascii (by decide), Utf8.bytesOf_append]
  rfl

/-- The text of an array, in bytes. -/
theorem bytesOf_array (items : List Json) :
    Utf8.bytesOf (printChars (.array items))
      = 0x5B :: (Utf8.bytesOf (printItems items) ++ [0x5D]) := by
  rw [printChars, List.cons_append, Utf8.bytesOf_cons_ascii (by decide), Utf8.bytesOf_append]
  rfl

/-- The text of an object, in bytes. -/
theorem bytesOf_object (members : Members) :
    Utf8.bytesOf (printChars (.object members))
      = 0x7B :: (Utf8.bytesOf (printMembers members) ++ [0x7D]) := by
  rw [printChars, List.cons_append, Utf8.bytesOf_cons_ascii (by decide), Utf8.bytesOf_append]
  rfl

/-- The text of items of which there is more than one, in bytes. -/
theorem bytesOf_printItems_cons (v w : Json) (items : List Json) :
    Utf8.bytesOf (printItems (v :: w :: items))
      = Utf8.bytesOf (printChars v) ++ 0x2C :: Utf8.bytesOf (printItems (w :: items)) := by
  rw [printItems, Utf8.bytesOf_append, Utf8.bytesOf_cons_ascii (by decide)]
  · rfl
  · simp

/-- Items begin like the first of them. -/
theorem bytesOf_printItems_head {depth : Nat} {v : Json} (h : IsExact depth v)
    (items : List Json) :
    ∃ b s, Utf8.bytesOf (printItems (v :: items)) = b :: s ∧ startsValue b := by
  obtain ⟨b, s, hbytes, hstart⟩ := bytesOf_printChars_head h
  rcases items with _ | ⟨w, items⟩
  · exact ⟨b, s, by rw [printItems, hbytes], hstart⟩
  · exact ⟨b, _, by rw [bytesOf_printItems_cons, hbytes]; rfl, hstart⟩

/-- The text of one member, in bytes. -/
theorem bytesOf_printMembers_singleton (name : String) (v : Json) :
    Utf8.bytesOf (printMembers [(name, v)])
      = Utf8.bytesOf (printString name) ++ 0x3A :: Utf8.bytesOf (printChars v) := by
  rw [printMembers, Utf8.bytesOf_append, Utf8.bytesOf_cons_ascii (by decide)]
  rfl

/-- The text of members of which there is more than one, in bytes. -/
theorem bytesOf_printMembers_cons (name : String) (v : Json) (b : String × Json)
    (members : Members) :
    Utf8.bytesOf (printMembers ((name, v) :: b :: members))
      = Utf8.bytesOf (printString name) ++ 0x3A :: (Utf8.bytesOf (printChars v)
          ++ 0x2C :: Utf8.bytesOf (printMembers (b :: members))) := by
  rw [printMembers, Utf8.bytesOf_append, Utf8.bytesOf_cons_ascii (by decide), Utf8.bytesOf_append,
    Utf8.bytesOf_cons_ascii (by decide), List.append_assoc]
  · rfl
  · simp

/-- Members begin with the quote of a name. -/
theorem bytesOf_printMembers_head (b : String × Json) (members : Members) :
    ∃ s, Utf8.bytesOf (printMembers (b :: members)) = 0x22 :: s := by
  obtain ⟨name, v⟩ := b
  rcases members with _ | ⟨c, members⟩
  · exact ⟨_, by rw [bytesOf_printMembers_singleton, bytesOf_printString]; rfl⟩
  · exact ⟨_, by rw [bytesOf_printMembers_cons, bytesOf_printString]; rfl⟩

/-! ### Reading values back -/

/-- Wherever the text of a value stands, where `depth` containers may be opened, the reader takes
it, and what it takes means the value. -/
def ReadsBack (depth : Nat) (v : Json) : Prop :=
  ∀ (fuel : Nat) (rest : Bytes), 2 * (Utf8.bytesOf (printChars v)).length ≤ fuel + 1 →
    EndsValue rest → ∃ raw,
      Raw.readValue fuel depth (Utf8.bytesOf (printChars v) ++ rest) = some (raw, rest)
        ∧ ofRaw raw = some v

/-- Items read back when each of them does. -/
theorem readItems_printItems {depth : Nat} {items : List Json} (hne : items ≠ [])
    (h : ∀ v ∈ items, ReadsBack depth v) (fuel : Nat) (rest : Bytes) (hpos : 0 < fuel)
    (hfuel : 2 * (Utf8.bytesOf (printItems items)).length ≤ fuel) :
    ∃ raws, Raw.readItems fuel depth (Utf8.bytesOf (printItems items) ++ 0x5D :: rest)
        = some (raws, rest) ∧ ofRawItems raws = some items := by
  induction items generalizing fuel with
  | nil => exact absurd rfl hne
  | cons v items ih =>
    obtain ⟨fuel, rfl⟩ : ∃ n, fuel = n + 1 := ⟨fuel - 1, by omega⟩
    have hv := h v List.mem_cons_self
    rcases items with _ | ⟨w, items⟩
    · -- the last item ends at the bracket, any other at a comma
      rw [printItems] at hfuel ⊢
      obtain ⟨raw, hread, hraw⟩ := hv fuel (0x5D :: rest) hfuel (by simp [EndsValue])
      exact ⟨[raw], Raw.readItems_last hread, by rw [ofRawItems, hraw]; rfl⟩
    · rw [bytesOf_printItems_cons] at hfuel ⊢
      simp only [List.length_append, List.length_cons] at hfuel
      obtain ⟨raw, hread, hraw⟩ := hv fuel
        (0x2C :: (Utf8.bytesOf (printItems (w :: items)) ++ 0x5D :: rest)) (by omega)
        (by simp [EndsValue])
      obtain ⟨raws, hreads, hraws⟩ := ih (List.cons_ne_nil w items)
        (fun u hu => h u (List.mem_cons_of_mem v hu)) fuel (by omega) (by omega)
      refine ⟨raw :: raws, ?_, by rw [ofRawItems, hraw, hraws]; rfl⟩
      rw [List.append_assoc, List.cons_append, Raw.readItems_more hread, hreads]
      rfl

/-- Members read back when each of their values does. -/
theorem readMembers_printMembers {depth : Nat} {members : Members} (hne : members ≠ [])
    (h : ∀ b ∈ members, ReadsBack depth b.2) (fuel : Nat) (rest : Bytes) (hpos : 0 < fuel)
    (hfuel : 2 * (Utf8.bytesOf (printMembers members)).length ≤ fuel) :
    ∃ raws, Raw.readMembers fuel depth (Utf8.bytesOf (printMembers members) ++ 0x7D :: rest)
        = some (raws, rest) ∧ ofRawMembers raws = some members := by
  induction members generalizing fuel with
  | nil => exact absurd rfl hne
  | cons b members ih =>
    obtain ⟨name, v⟩ := b
    obtain ⟨fuel, rfl⟩ : ∃ n, fuel = n + 1 := ⟨fuel - 1, by omega⟩
    have hv : ReadsBack depth v := h (name, v) List.mem_cons_self
    have hname := fun s => Raw.readString_printString name.toList s
    rcases members with _ | ⟨b, members⟩
    · -- the last value ends at the brace, any other at a comma
      rw [bytesOf_printMembers_singleton, bytesOf_printString] at hfuel ⊢
      simp only [List.length_append, List.length_cons] at hfuel
      obtain ⟨raw, hread, hraw⟩ := hv fuel (0x7D :: rest) (by omega) (by simp [EndsValue])
      refine ⟨[(name.toList.flatMap piecesOf, raw)], ?_, ?_⟩
      · simp only [List.cons_append, List.append_assoc, List.nil_append]
        exact Raw.readMembers_last (hname _) hread
      · rw [ofRawMembers, ofPieces_piecesOf, hraw]
        rfl
    · rw [bytesOf_printMembers_cons, bytesOf_printString] at hfuel ⊢
      simp only [List.length_append, List.length_cons] at hfuel
      obtain ⟨raw, hread, hraw⟩ := hv fuel
        (0x2C :: (Utf8.bytesOf (printMembers (b :: members)) ++ 0x7D :: rest)) (by omega)
        (by simp [EndsValue])
      obtain ⟨raws, hreads, hraws⟩ := ih (List.cons_ne_nil b members)
        (fun u hu => h u (List.mem_cons_of_mem _ hu)) fuel (by omega) (by omega)
      refine ⟨(name.toList.flatMap piecesOf, raw) :: raws, ?_, ?_⟩
      · simp only [List.cons_append, List.append_assoc, List.nil_append]
        rw [Raw.readMembers_more (hname _) hread, hreads]
        rfl
      · rw [ofRawMembers, ofPieces_piecesOf, hraw, hraws]
        rfl

/-- An array reads back when its items do. -/
theorem readValue_printArray {depth n : Nat} {items : List Json}
    (hexact : ∀ v ∈ items, IsExact n v) (h : ∀ v ∈ items, ReadsBack depth v) (fuel : Nat)
    (rest : Bytes) (hfuel : 2 * (Utf8.bytesOf (printChars (.array items))).length ≤ fuel + 2) :
    ∃ raws, Raw.readValue (fuel + 1) (depth + 1)
        (Utf8.bytesOf (printChars (.array items)) ++ rest) = some (.array raws, rest)
      ∧ ofRawItems raws = some items := by
  rw [bytesOf_array] at hfuel ⊢
  rcases items with _ | ⟨v, items⟩
  · exact ⟨[], rfl, rfl⟩
  · simp only [List.length_cons, List.length_append] at hfuel
    obtain ⟨raws, hreads, hraws⟩ := readItems_printItems (List.cons_ne_nil v items) h fuel rest
      (by omega) (by omega)
    -- the first item is not taken for the end of the array
    obtain ⟨b, s, hbytes, hstart⟩ := bytesOf_printItems_head (hexact v List.mem_cons_self) items
    refine ⟨raws, ?_, hraws⟩
    rw [List.cons_append, List.append_assoc, List.singleton_append]
    rw [hbytes, List.cons_append] at hreads ⊢
    rw [Raw.readValue_array (isSpace_of_startsValue hstart) (ne_bracket_of_startsValue hstart),
      hreads]
    rfl

/-- An object reads back when its values do; the bindings that are read are its members. -/
theorem readValue_printObject {depth : Nat} {members : Members}
    (h : ∀ b ∈ members, ReadsBack depth b.2) (fuel : Nat) (rest : Bytes)
    (hfuel : 2 * (Utf8.bytesOf (printChars (.object members))).length ≤ fuel + 2) :
    ∃ raws, Raw.readValue (fuel + 1) (depth + 1)
        (Utf8.bytesOf (printChars (.object members)) ++ rest) = some (.object raws, rest)
      ∧ ofRawMembers raws = some members := by
  rw [bytesOf_object] at hfuel ⊢
  rcases members with _ | ⟨b, members⟩
  · exact ⟨[], rfl, rfl⟩
  · simp only [List.length_cons, List.length_append] at hfuel
    obtain ⟨raws, hreads, hraws⟩ := readMembers_printMembers (List.cons_ne_nil b members) h fuel
      rest (by omega) (by omega)
    obtain ⟨s, hbytes⟩ := bytesOf_printMembers_head b members
    refine ⟨raws, ?_, hraws⟩
    rw [List.cons_append, List.append_assoc, List.singleton_append]
    rw [hbytes, List.cons_append] at hreads ⊢
    rw [Raw.readValue_object, hreads]
    rfl

/-- Fuel that is enough for the text of a value lasts for one step at least. -/
theorem exists_fuel {n fuel : Nat} {v : Json} (h : IsExact n v)
    (hfuel : 2 * (Utf8.bytesOf (printChars v)).length ≤ fuel + 1) : ∃ k, fuel = k + 1 := by
  obtain ⟨b, s, hbytes, -⟩ := bytesOf_printChars_head h
  rw [hbytes, List.length_cons] at hfuel
  exact ⟨fuel - 1, by omega⟩

/-- Exact values read back. -/
theorem readsBack_of_isExact {n : Nat} {v : Json} (h : IsExact n v) :
    ∀ {depth : Nat}, n ≤ depth → ReadsBack depth v := by
  induction h with
  | null =>
    intro depth _ fuel rest hfuel _
    obtain ⟨fuel, rfl⟩ := exists_fuel (.null : IsExact 0 _) hfuel
    exact ⟨.null, rfl, rfl⟩
  | bool b =>
    intro depth _ fuel rest hfuel _
    obtain ⟨fuel, rfl⟩ := exists_fuel (.bool b : IsExact 0 _) hfuel
    cases b with
    | false => exact ⟨.bool false, rfl, rfl⟩
    | true => exact ⟨.bool true, rfl, rfl⟩
  | @integer m n hlo hhi =>
    intro depth _ fuel rest hfuel hrest
    obtain ⟨fuel, rfl⟩ := exists_fuel (IsExact.integer hlo hhi : IsExact m _) hfuel
    obtain ⟨b, s, hbytes, hstart, hb⟩ := bytesOf_printInt_head n
    have hread := Raw.readNumber_printInt n hrest
    refine ⟨.number (literalOf n), ?_, ?_⟩
    · rw [printChars, printNumber]
      rw [hbytes, List.cons_append] at hread ⊢
      rw [Raw.readValue_number (isSpace_of_startsValue hstart) hb, hread]
      rfl
    · rw [ofRaw, ofLiteral_literalOf hlo hhi]
      rfl
  | @string m s =>
    intro depth _ fuel rest hfuel _
    obtain ⟨fuel, rfl⟩ := exists_fuel (IsExact.string s : IsExact m _) hfuel
    refine ⟨.string (s.toList.flatMap piecesOf), ?_, ?_⟩
    · rw [printChars, bytesOf_printString, List.cons_append, Raw.readValue_string,
        List.append_assoc, List.singleton_append, Raw.readString_printString]
      rfl
    · rw [ofRaw, ofPieces_piecesOf]
      rfl
  | @array m items h ih =>
    intro depth hdepth fuel rest hfuel _
    obtain ⟨fuel, rfl⟩ := exists_fuel (IsExact.array h) hfuel
    -- the array takes one level, and leaves the others to its items
    obtain ⟨depth, rfl⟩ : ∃ k, depth = k + 1 := ⟨depth - 1, by omega⟩
    obtain ⟨raws, hread, hraws⟩ := readValue_printArray h
      (fun v hv => ih v hv (Nat.le_of_succ_le_succ hdepth)) fuel rest hfuel
    exact ⟨.array raws, hread, by rw [ofRaw, hraws]; rfl⟩
  | @object m members hsorted h ih =>
    intro depth hdepth fuel rest hfuel _
    obtain ⟨fuel, rfl⟩ := exists_fuel (IsExact.object hsorted h) hfuel
    obtain ⟨depth, rfl⟩ : ∃ k, depth = k + 1 := ⟨depth - 1, by omega⟩
    obtain ⟨raws, hread, hraws⟩ := readValue_printObject
      (fun b hb => ih b hb (Nat.le_of_succ_le_succ hdepth)) fuel rest hfuel
    refine ⟨.object raws, hread, ?_⟩
    rw [ofRaw, hraws]
    -- binding the members again puts them where they stand
    show some (ofBindings members) = _
    rw [ofBindings, Members.ofList_of_isSorted hsorted]

/-- An exact value reads back from its text. -/
theorem ofBytes?_print {v : Json} (h : IsExact maxDepth v) :
    ofBytes? (Utf8.encode v.print) = some v := by
  obtain ⟨raw, hread, hraw⟩ := readsBack_of_isExact h le_rfl
    (2 * (Utf8.bytesOf (printChars v)).length + 2) [] (by omega) trivial
  rw [List.append_nil] at hread
  rw [ofBytes?, print, Utf8.encode_ofList, Raw.read, hread]
  exact hraw

/-- The bindings of an object are read from its text as its members. -/
theorem read_printObject {n : Nat} {members : Members} (hn : n < maxDepth)
    (h : ∀ b ∈ members, IsExact n b.2) :
    ∃ raws, Raw.read maxDepth (Utf8.encode (Json.object members).print) = some (.object raws)
      ∧ ofRawMembers raws = some members := by
  have hback : ∀ b ∈ members, ReadsBack (maxDepth - 1) b.2 := fun b hb =>
    readsBack_of_isExact (h b hb) (by omega)
  obtain ⟨raws, hread, hraws⟩ := readValue_printObject hback
    (2 * (Utf8.bytesOf (printChars (.object members))).length + 1) [] (by omega)
  rw [List.append_nil] at hread
  refine ⟨raws, ?_, hraws⟩
  rw [print, Utf8.encode_ofList, Raw.read]
  show ((Raw.readValue _ (maxDepth - 1 + 1) _).bind _) = _
  rw [hread]
  rfl

end AuthGateway.Json
