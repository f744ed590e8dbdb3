import AuthGateway.Proofs.Text.Leading
import AuthGateway.Proofs.Text.Pieces
import AuthGateway.Telemetry.Statsd
import Mathlib.Data.List.Forall2
import Mathlib.Tactic.SplitIfs

/-!
# Reading statsd lines

An agent cuts a line at every `|`, the first part at its first `:`, the tags at every `,`, and each
tag at its first `:` (`StatsdLine.parse?`).  Names and keys come from the gateway and are plain:
they hold no separators (`StatsdLine.IsPlain`).  Values of tags come from anywhere.  What is left of
a value may hold a `:`, which ends no tag, but nothing that ends a tag or a part of a line
(`StatsdClient.plain_tagValue`), so an agent reads a line as it was written
(`StatsdClient.reads_line`), tag by tag (`StatsdClient.mapM_cutAt?_tags`).
-/

namespace AuthGateway

/-- A line as an agent reads it. -/
structure StatsdLine where
  name : List Char
  value : List Char
  kind : List Char
  tags : List (List Char × List Char)
  deriving DecidableEq, Repr

namespace StatsdLine

/-- Read a line: what is measured, the kind, and the tags if there are any. -/
def parse? (line : List Char) : Option StatsdLine :=
  match line.splitOn '|' with
  | [measured, kind] => (Text.cutAt? ':' measured).map fun (name, value) => ⟨name, value, kind, []⟩
  | [measured, kind, '#' :: tags] => do
    let (name, value) ← Text.cutAt? ':' measured
    let tags ← (tags.splitOn ',').mapM (Text.cutAt? ':')
    return ⟨name, value, kind, tags⟩
  | _ => none

/-- Whether a text holds no separators and no control characters. -/
def IsPlain (s : String) : Prop :=
  ∀ c ∈ s.toList, c ≠ ':' ∧ c ≠ '|' ∧ c ≠ ',' ∧ c ≠ '#' ∧ Text.isControl c = false

instance (s : String) : Decidable (IsPlain s) :=
  List.decidableBAll _ s.toList

/-- Whether a text shows a value: there is a `_` for each character that ends a part of a line or a
tag and for each control character, and all other characters are there as they are. -/
def Shows (value : String) (shown : List Char) : Prop :=
  List.Forall₂ (fun c d => d = if c = '|' ∨ c = ',' ∨ c = '#' ∨ Text.isControl c then '_' else c)
    value.toList shown

/-- Whether a tag that was read is a tag that was written: it has the same key, and shows the
value. -/
def IsTag (t : String × String) (read : List Char × List Char) : Prop :=
  read.1 = t.1.toList ∧ Shows t.2 read.2

/-- Whether an agent reads a measurement from a line: exactly the name, the number, the kind and the
tags, in their order.  The line holds no control characters. -/
structure Reads (line : List Char) (name : String) (value : Nat) (kind : String)
    (tags : List (String × String)) : Prop where
  parsed : ∃ read, parse? line = some ⟨name.toList, (toString value).toList, kind.toList, read⟩
    ∧ List.Forall₂ IsTag tags read
  visible : ∀ c ∈ line, Text.isControl c = false

end StatsdLine

namespace StatsdClient

open StatsdLine Text

variable {tags : List (String × String)}

/-! ### Values of tags -/

theorem shows_tagValue (value : String) : Shows value (tagValue value) :=
  List.forall₂_map_right_iff.2 (List.forall₂_same.2 fun _ _ => rfl)

/-- Nothing is replaced in a plain value. -/
theorem tagValue_of_isPlain {value : String} (h : IsPlain value) :
    tagValue value = value.toList := by
  refine (List.map_congr_left fun c hc => ?_).trans (List.map_id value.toList)
  obtain ⟨-, hbar, hcomma, hhash, hcontrol⟩ := h c hc
  simp [tagChar, hbar, hcomma, hhash, hcontrol]

/-- The value of a tag ends no part of a line and no tag, and holds no control characters. -/
theorem plain_tagValue {value : String} {c : Char} (hc : c ∈ tagValue value) :
    c ≠ '|' ∧ c ≠ ',' ∧ isControl c = false := by
  obtain ⟨d, -, rfl⟩ := List.mem_map.1 hc
  unfold tagChar
  split_ifs with hd
  · decide
  · simp only [not_or, Bool.not_eq_true] at hd
    exact ⟨hd.1, hd.2.1, hd.2.2.2⟩

/-- So does a tag whose key is plain. -/
theorem plain_tag {t : String × String} (ht : IsPlain t.1) {c : Char} (hc : c ∈ tag t) :
    c ≠ '|' ∧ c ≠ ',' ∧ isControl c = false := by
  rcases List.mem_append.1 hc with hc | hc
  · obtain ⟨-, hbar, hcomma, -, hcontrol⟩ := ht c hc
    exact ⟨hbar, hcomma, hcontrol⟩
  · rcases List.mem_cons.1 hc with rfl | hc
    · decide
    · exact plain_tagValue hc

/-- Tags are read as they were written. -/
theorem mapM_cutAt?_tags (htags : ∀ t ∈ tags, IsPlain t.1) :
    (tags.map tag).mapM (cutAt? ':') = some (tags.map fun t => (t.1.toList, tagValue t.2)) := by
  induction tags with
  | nil => rfl
  | cons t tags ih =>
    have hkey : ':' ∉ t.1.toList := fun h => (htags t List.mem_cons_self ':' h).1 rfl
    have hcut : cutAt? ':' (tag t) = some (t.1.toList, tagValue t.2) :=
      cutAt?_eq_some_iff.2 ⟨hkey, rfl⟩
    rw [List.map_cons, List.mapM_cons, hcut, ih fun t' ht' => htags t' (List.mem_cons_of_mem t ht')]
    rfl

/-! ### Lines -/

/-- A number is plain. -/
theorem isPlain_toString (n : Nat) : IsPlain (toString n) := by
  intro c hc
  have hmem : c ∈ Nat.toDigits 10 n := by simpa [toString, Nat.repr] using hc
  have hdigit : c.isDigit = true := Nat.isDigit_of_mem_toDigits (by decide) (by decide) hmem
  have hcontrol : isControl c = false := by
    simp only [Char.isDigit, Bool.and_eq_true, decide_eq_true_eq, ge_iff_le,
      UInt32.le_iff_toNat_le] at hdigit
    obtain ⟨hlow, hhigh⟩ := hdigit
    change 48 ≤ c.toNat at hlow
    change c.toNat ≤ 57 at hhigh
    simp only [isControl, Bool.or_eq_false_iff, Bool.and_eq_false_iff, decide_eq_false_iff_not]
    omega
  refine ⟨?_, ?_, ?_, ?_, hcontrol⟩
  all_goals
    rintro rfl
    exact absurd hdigit (by decide)

theorem isPlain_kind (m : Measurement) : IsPlain m.kind := by
  cases m with
  | increment => exact (by decide : IsPlain "c")
  | milliseconds n => exact (by decide : IsPlain "ms")

/-- The part of a line that says what is measured. -/
def measured (c : StatsdClient) (name : String) (m : Measurement) : List Char :=
  (c.namePrefix ++ name).toList ++ ':' :: (toString m.value).toList

theorem line_eq (c : StatsdClient) (name : String) (m : Measurement) :
    c.line name m tags = c.measured name m ++ '|' :: m.kind.toList ++ tagPart tags := by
  have hdigits : (toString m.value).toList = Nat.toDigits 10 m.value := by
    simp [toString, Nat.repr]
  unfold line measured
  rw [hdigits, String.toList_append]

section Lines

variable {c : StatsdClient} {name : String} {m : Measurement}

theorem mem_measured (hclient : IsPlain c.namePrefix) (hname : IsPlain name) {d : Char}
    (hd : d ∈ c.measured name m) : d ≠ '|' ∧ isControl d = false := by
  unfold measured at hd
  rw [String.toList_append, List.mem_append, List.mem_append, List.mem_cons] at hd
  rcases hd with (hd | hd) | rfl | hd
  · exact ⟨(hclient d hd).2.1, (hclient d hd).2.2.2.2⟩
  · exact ⟨(hname d hd).2.1, (hname d hd).2.2.2.2⟩
  · decide
  · have hplain := isPlain_toString m.value d hd
    exact ⟨hplain.2.1, hplain.2.2.2.2⟩

/-- What is measured is cut at its first `:`. -/
theorem cutAt?_measured (hclient : IsPlain c.namePrefix) (hname : IsPlain name) :
    cutAt? ':' (c.measured name m)
      = some ((c.namePrefix ++ name).toList, (toString m.value).toList) := by
  refine cutAt?_eq_some_iff.2 ⟨?_, rfl⟩
  rw [String.toList_append, List.mem_append, not_or]
  exact ⟨fun h => (hclient ':' h).1 rfl, fun h => (hname ':' h).1 rfl⟩

/-- The part of a line with the tags holds nothing that ends a part of the line. -/
theorem mem_tags (htags : ∀ t ∈ tags, IsPlain t.1) {d : Char}
    (hd : d ∈ [','].intercalate (tags.map tag)) : d ≠ '|' ∧ isControl d = false := by
  rcases mem_intercalate hd with rfl | ⟨piece, hpiece, hd⟩
  · decide
  · obtain ⟨t, ht, rfl⟩ := List.mem_map.1 hpiece
    obtain ⟨hbar, -, hcontrol⟩ := plain_tag (htags t ht) hd
    exact ⟨hbar, hcontrol⟩

/-- The parts of a line. -/
theorem splitOn_line (hclient : IsPlain c.namePrefix) (hname : IsPlain name)
    (htags : ∀ t ∈ tags, IsPlain t.1) : (c.line name m tags).splitOn '|'
      = c.measured name m :: m.kind.toList
        :: if tags = [] then [] else ['#' :: [','].intercalate (tags.map tag)] := by
  have hmeasured : '|' ∉ c.measured name m := fun h => (mem_measured hclient hname h).1 rfl
  have hkind : '|' ∉ m.kind.toList := fun h => (isPlain_kind m '|' h).2.1 rfl
  rw [line_eq, List.append_assoc, List.cons_append,
    List.splitOn_append_cons_self_of_not_mem hmeasured, tagPart]
  -- the only separators left to cut at are those that the line itself puts between its parts
  by_cases hne : tags = []
  · rw [if_pos hne, if_pos hne, List.append_nil, List.splitOn_eq_singleton hkind]
  · have htag : '|' ∉ '#' :: [','].intercalate (tags.map tag) := by
      rw [List.mem_cons, not_or]
      exact ⟨by decide, fun h => (mem_tags htags h).1 rfl⟩
    rw [if_neg hne, if_neg hne, List.splitOn_append_cons_self_of_not_mem hkind,
      List.splitOn_eq_singleton htag]

/-- An agent reads from a line what was written into it. -/
theorem parse?_line (hclient : IsPlain c.namePrefix) (hname : IsPlain name)
    (htags : ∀ t ∈ tags, IsPlain t.1) : StatsdLine.parse? (c.line name m tags)
      = some ⟨(c.namePrefix ++ name).toList, (toString m.value).toList, m.kind.toList,
        tags.map fun t => (t.1.toList, tagValue t.2)⟩ := by
  rw [StatsdLine.parse?, splitOn_line hclient hname htags]
  by_cases hne : tags = []
  · rw [if_pos hne, hne]
    dsimp only
    rw [cutAt?_measured hclient hname]
    rfl
  · have hpieces : ([','].intercalate (tags.map tag)).splitOn ',' = tags.map tag := by
      refine splitOn_eq_iff.2 ⟨fun h => hne (List.map_eq_nil_iff.1 h), ?_, rfl⟩
      intro piece hpiece
      obtain ⟨t, ht, rfl⟩ := List.mem_map.1 hpiece
      exact fun h => (plain_tag (htags t ht) h).2.1 rfl
    -- a pattern that is a character is only decided by evaluation, so the match is replaced at once
    rw [if_neg hne]
    show (cutAt? ':' (c.measured name m) >>= fun x =>
      (([','].intercalate (tags.map tag)).splitOn ',').mapM (cutAt? ':') >>= fun read =>
        some (StatsdLine.mk x.1 x.2 m.kind.toList read)) = _
    rw [cutAt?_measured hclient hname, hpieces, mapM_cutAt?_tags htags]
    rfl

/-- A line holds no control characters. -/
theorem not_isControl_of_mem_line (hclient : IsPlain c.namePrefix) (hname : IsPlain name)
    (htags : ∀ t ∈ tags, IsPlain t.1) {d : Char} (hd : d ∈ c.line name m tags) :
    isControl d = false := by
  rw [line_eq, List.mem_append, List.mem_append, List.mem_cons] at hd
  rcases hd with (hd | rfl | hd) | hd
  · exact (mem_measured hclient hname hd).2
  · decide
  · exact (isPlain_kind m d hd).2.2.2.2
  · unfold tagPart at hd
    split_ifs at hd
    · exact absurd hd List.not_mem_nil
    · rcases List.mem_cons.1 hd with rfl | hd
      · decide
      · rcases List.mem_cons.1 hd with rfl | hd
        · decide
        · exact (mem_tags htags hd).2

/-- A line is read as it was written. -/
theorem reads_line (hclient : IsPlain c.namePrefix) (hname : IsPlain name)
    (htags : ∀ t ∈ tags, IsPlain t.1) :
    Reads (c.line name m tags) (c.namePrefix ++ name) m.value m.kind tags := by
  refine ⟨⟨_, parse?_line hclient hname htags, ?_⟩,
    fun _ => not_isControl_of_mem_line hclient hname htags⟩
  rw [List.forall₂_map_right_iff, List.forall₂_same]
  exact fun t _ => ⟨rfl, shows_tagValue t.2⟩

end Lines

/-- Lines are sent in their order, but for those that no datagram can hold. -/
theorem flatMap_datagrams (lines : List (List Char)) :
    lines.flatMap datagrams
      = (lines.map String.ofList).filter fun text => text.utf8ByteSize ≤ maxDatagram := by
  induction lines with
  | nil => rfl
  | cons line lines ih =>
    rw [List.flatMap_cons, List.map_cons, ih, datagrams]
    by_cases hline : (String.ofList line).utf8ByteSize ≤ maxDatagram
    · rw [List.filter_cons_of_pos (by simpa using hline)]
      rw [if_pos hline, List.singleton_append]
    · rw [List.filter_cons_of_neg (by simpa using hline)]
      rw [if_neg hline, List.nil_append]

end StatsdClient

end AuthGateway
