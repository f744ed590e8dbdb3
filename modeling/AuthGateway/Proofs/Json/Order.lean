import AuthGateway.Json.Value
import Mathlib.Data.String.Basic

/-!
# Members in the order of their names

`Members.IsSorted` says that members stand in the order of their names, each name once; it is what
every operation on members keeps (`isSorted_insert`, `isSorted_erase`).  Sorted members are the
members of themselves as bindings (`ofList_of_isSorted`), and no name occurs twice in them
(`length_filter_name_le`).

Of bindings in any order the last one of a name counts (`get?_ofList`); where a name is bound once,
it does not matter from which end it is looked up (`get?_ofList_of_length_le`).  Bindings of
different names are all among the members (`perm_ofList`).
-/

namespace AuthGateway.Json

namespace Members

/-- Whether members stand in the order of their names, each name once. -/
def IsSorted (m : Members) : Prop :=
  m.Pairwise fun a b => a.1 < b.1

instance (m : Members) : Decidable m.IsSorted :=
  inferInstanceAs (Decidable (List.Pairwise _ _))

/-- What is bound after a binding is the new binding or was bound before. -/
theorem mem_insert {name : String} {value : Json} {m : Members} {b : String × Json}
    (h : b ∈ m.insert name value) : b = (name, value) ∨ b ∈ m := by
  induction m with
  | nil => exact Or.inl (List.mem_singleton.1 h)
  | cons a rest ih =>
    rw [insert] at h
    split_ifs at h with hlt heq
    · exact List.mem_cons.1 h
    · rcases List.mem_cons.1 h with rfl | h
      · exact Or.inl rfl
      · exact Or.inr (List.mem_cons_of_mem a h)
    · rcases List.mem_cons.1 h with rfl | h
      · exact Or.inr List.mem_cons_self
      · exact (ih h).imp_right (List.mem_cons_of_mem a)

theorem isSorted_insert (name : String) (value : Json) {m : Members} (h : m.IsSorted) :
    (m.insert name value).IsSorted := by
  induction m with
  | nil => exact List.pairwise_singleton _ _
  | cons a rest ih =>
    obtain ⟨ha, hrest⟩ := List.pairwise_cons.1 h
    rw [insert]
    split_ifs with hlt heq
    · refine List.pairwise_cons.2 ⟨?_, h⟩
      rintro b hb
      rcases List.mem_cons.1 hb with rfl | hb
      · exact hlt
      · exact lt_trans hlt (ha b hb)
    · exact List.pairwise_cons.2 ⟨fun b hb => heq ▸ ha b hb, hrest⟩
    · refine List.pairwise_cons.2 ⟨?_, ih hrest⟩
      intro b hb
      rcases mem_insert hb with rfl | hb
      · exact lt_of_le_of_ne (not_lt.1 hlt) (Ne.symm heq)
      · exact ha b hb

theorem isSorted_erase (name : String) {m : Members} (h : m.IsSorted) :
    (m.erase name).IsSorted :=
  List.Pairwise.filter _ h

/-- A name behind all others is bound at the end. -/
theorem insert_of_forall_lt {name : String} {m : Members} (h : ∀ b ∈ m, b.1 < name)
    (value : Json) : m.insert name value = m ++ [(name, value)] := by
  induction m with
  | nil => rfl
  | cons a rest ih =>
    have ha := h a List.mem_cons_self
    rw [insert, if_neg (not_lt.2 ha.le), if_neg ha.ne',
      ih fun b hb => h b (List.mem_cons_of_mem a hb)]
    rfl

/-- Sorted bindings are members as they stand. -/
theorem ofList_of_isSorted {m : Members} (h : m.IsSorted) : ofList m = m := by
  -- what was bound so far lies before what is still to be bound
  suffices hfold : ∀ (rest front : Members), (front ++ rest).IsSorted →
      rest.foldl (fun m b => insert b.1 b.2 m) front = front ++ rest from hfold m [] h
  intro rest
  induction rest with
  | nil => intro front _; rw [List.append_nil]; rfl
  | cons b rest ih =>
    intro front hsorted
    have hlt : ∀ a ∈ front, a.1 < b.1 := fun a ha =>
      (List.pairwise_append.1 hsorted).2.2 a ha b List.mem_cons_self
    rw [List.foldl_cons, insert_of_forall_lt hlt, ih _ (by simpa using hsorted)]
    simp

/-- A name occurs at most once in sorted members. -/
theorem length_filter_name_le {m : Members} (h : m.IsSorted) (name : String) :
    (m.filter (·.1 = name)).length ≤ 1 := by
  have hsorted : IsSorted (m.filter (·.1 = name)) := List.Pairwise.filter _ h
  have hname : ∀ b ∈ m.filter (·.1 = name), b.1 = name := fun b hb => by
    simpa using (List.mem_filter.1 hb).2
  generalize m.filter (·.1 = name) = found at hsorted hname ⊢
  -- two members of one name would not be in order
  rcases found with _ | ⟨a, _ | ⟨b, rest⟩⟩
  · exact Nat.zero_le 1
  · exact Nat.le_refl 1
  · have hlt : a.1 < b.1 := (List.pairwise_cons.1 hsorted).1 b List.mem_cons_self
    rw [hname a List.mem_cons_self, hname b (by simp)] at hlt
    exact absurd hlt (lt_irrefl name)

/-- The members of bindings stand in the order of their names. -/
theorem isSorted_ofList (bindings : List (String × Json)) : (ofList bindings).IsSorted := by
  suffices hfold : ∀ m : Members, m.IsSorted →
      IsSorted (bindings.foldl (fun m b => m.insert b.1 b.2) m) from
    hfold [] List.Pairwise.nil
  induction bindings with
  | nil => exact fun m hm => hm
  | cons b rest ih => exact fun m hm => ih _ (isSorted_insert b.1 b.2 hm)

/-- A new name joins the others. -/
theorem perm_insert {name : String} {m : Members} (h : ∀ b ∈ m, b.1 ≠ name) (value : Json) :
    (m.insert name value).Perm ((name, value) :: m) := by
  induction m with
  | nil => exact .refl _
  | cons a rest ih =>
    rw [insert]
    split_ifs with hlt heq
    · exact .refl _
    · exact absurd heq.symm (h a List.mem_cons_self)
    · have hrest := ih fun b hb => h b (List.mem_cons_of_mem a hb)
      exact (hrest.cons a).trans (.swap (name, value) a rest)

/-- Bindings of different names are the members, in some order. -/
theorem perm_ofList {bindings : List (String × Json)}
    (h : bindings.Pairwise fun a b => a.1 ≠ b.1) : (ofList bindings).Perm bindings := by
  suffices hfold : ∀ m : Members, (m ++ bindings).Pairwise (fun a b => a.1 ≠ b.1) →
      (bindings.foldl (fun m b => m.insert b.1 b.2) m).Perm (m ++ bindings) from hfold [] h
  clear h
  induction bindings with
  | nil =>
    intro m _
    rw [List.append_nil]
    exact .refl m
  | cons b rest ih =>
    intro m hm
    have hb : ∀ a ∈ m, a.1 ≠ b.1 := fun a ha =>
      (List.pairwise_append.1 hm).2.2 a ha b List.mem_cons_self
    have hinsert : (m.insert b.1 b.2 ++ rest).Perm (m ++ b :: rest) :=
      ((perm_insert hb b.2).append_right rest).trans List.perm_middle.symm
    have hdistinct := (hinsert.pairwise_iff fun hne => Ne.symm hne).2 hm
    exact (ih _ hdistinct).trans hinsert

/-! ### Looking up names -/

/-- A binding of another name is passed over. -/
theorem lookup_cons_of_ne {name : String} {b : String × Json} (h : name ≠ b.1)
    (rest : List (String × Json)) : (b :: rest).lookup name = rest.lookup name := by
  obtain ⟨n, v⟩ := b
  have hname : (name == n) = false := beq_eq_false_iff_ne.2 h
  rw [List.lookup_cons, hname]

theorem get?_insert (name : String) (value : Json) (m : Members) (name' : String) :
    (m.insert name value).get? name' = if name' = name then some value else m.get? name' := by
  unfold get?
  by_cases h : name' = name
  · subst h
    rw [if_pos rfl]
    induction m with
    | nil => exact List.lookup_cons_self
    | cons a rest ih =>
      rw [insert]
      split_ifs with hlt heq
      · exact List.lookup_cons_self
      · exact List.lookup_cons_self
      · rw [lookup_cons_of_ne heq, ih]
  · rw [if_neg h]
    induction m with
    | nil => exact lookup_cons_of_ne h []
    | cons a rest ih =>
      rw [insert]
      split_ifs with hlt heq
      · exact lookup_cons_of_ne h _
      · rw [lookup_cons_of_ne h, lookup_cons_of_ne (heq ▸ h)]
      · rw [List.lookup_cons, List.lookup_cons, ih]

/-- The last binding of a name counts. -/
theorem get?_ofList (bindings : List (String × Json)) (name : String) :
    (ofList bindings).get? name = bindings.reverse.lookup name := by
  -- names that are not bound any more keep what they were bound to so far
  suffices hfold : ∀ m : Members, (bindings.foldl (fun m b => m.insert b.1 b.2) m).get? name
      = (bindings.reverse.lookup name).or (m.get? name) by
    rw [ofList, hfold, get?, List.lookup_nil, Option.or_none]
  induction bindings with
  | nil => intro m; rfl
  | cons b rest ih =>
    intro m
    rw [List.foldl_cons, ih, List.reverse_cons, List.lookup_append, Option.or_assoc, get?_insert]
    congr 1
    by_cases h : name = b.1
    · rw [if_pos h, h, List.lookup_cons_self]
      rfl
    · rw [if_neg h, lookup_cons_of_ne h]
      rfl

/-- Looking up a name gives the first of its bindings. -/
theorem lookup_eq_head?_filter (bindings : List (String × Json)) (name : String) :
    bindings.lookup name = ((bindings.filter (·.1 = name)).head?).map (·.2) := by
  induction bindings with
  | nil => rfl
  | cons b rest ih =>
    by_cases h : name = b.1
    · subst h
      have hpos : decide (b.1 = b.1) = true := decide_eq_true rfl
      rw [List.lookup_cons_self, List.filter_cons, if_pos hpos]
      rfl
    · rw [lookup_cons_of_ne h, ih, List.filter_cons_of_neg (by simpa using Ne.symm h)]

/-- A name that is bound once at most is what its binding says. -/
theorem get?_ofList_of_length_le {bindings : List (String × Json)} {name : String}
    (h : (bindings.filter (·.1 = name)).length ≤ 1) :
    (ofList bindings).get? name = bindings.lookup name := by
  rw [get?_ofList, lookup_eq_head?_filter, lookup_eq_head?_filter, List.filter_reverse]
  generalize bindings.filter (·.1 = name) = found at h ⊢
  -- turning round a list of one binding at most changes nothing
  rcases found with _ | ⟨b, _ | ⟨b', rest⟩⟩
  · rfl
  · rfl
  · exact absurd h (by simp)

end Members

end AuthGateway.Json
