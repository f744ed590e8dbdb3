import AuthGateway.Files.Path
import AuthGateway.Proofs.Text.Pieces
import Mathlib.Data.String.Basic
import Mathlib.Tactic.ByContra

/-!
# Where paths lead, by their text alone

The steps of a path behind a directory are those of the directory and then its own (`steps_join`),
as long as the path does not begin with a slash or a dot.  So a path that only leads down stays
inside every directory that it is put behind (`isInside_join`), in the sense that what is left of
both when the dots are worked out (`normal`) begins with the directory.
-/

namespace AuthGateway.FilePath

variable {directory path : String} {a b s : List Char}

/-! ### Steps -/

/-- What stands in front of a path is known from its first segment. -/
theorem front_append_slash (a b : List Char) : front (a ++ '/' :: b) = front (a ++ ['/']) := by
  have hhead : (a ++ '/' :: b).head? = (a ++ ['/']).head? := by
    cases a with
    | nil => rfl
    | cons c a => rfl
  have hsegment : ((a ++ '/' :: b).splitOn '/').head? = ((a ++ ['/']).splitOn '/').head? := by
    rw [List.splitOn_append_cons_self, List.splitOn_append_cons_self,
      List.head?_append_of_ne_nil _ (List.splitOn_ne_nil '/' a),
      List.head?_append_of_ne_nil _ (List.splitOn_ne_nil '/' a)]
  unfold front
  rw [hhead, hsegment]

/-- A slash at the end changes nothing about what stands in front. -/
theorem front_append_singleton (h : a ≠ []) : front (a ++ ['/']) = front a := by
  have hsegment : ((a ++ ['/']).splitOn '/').head? = (a.splitOn '/').head? := by
    rw [List.splitOn_append_cons_self, List.head?_append_of_ne_nil _ (List.splitOn_ne_nil '/' a)]
  unfold front
  rw [List.head?_append_of_ne_nil _ h, hsegment]

theorem front_eq_nil_iff :
    front s = [] ↔ s.head? ≠ some '/' ∧ (s.splitOn '/').head? ≠ some ['.'] := by
  unfold front
  split_ifs with hslash hdot
  · simp [hslash]
  · simp [hslash, hdot]
  · simp [hslash, hdot]

/-- The steps of a path on both sides of a slash. -/
theorem steps_append_slash (a b : List Char) : steps (a ++ '/' :: b)
    = front (a ++ ['/']) ++ (a.splitOn '/').filterMap PathStep.ofSegment?
      ++ (b.splitOn '/').filterMap PathStep.ofSegment? := by
  rw [steps, front_append_slash, List.splitOn_append_cons_self, List.filterMap_append,
    List.append_assoc]

/-- The text of a path in a directory that has a name: a slash, and the path behind it. -/
theorem exists_toList_join (hpath : path.toList.head? ≠ some '/') (hdirectory : directory ≠ "") :
    ∃ a, (join directory path).toList = a ++ '/' :: path.toList
      ∧ (directory.toList = a ++ ['/'] ∨ directory.toList = a ∧ a ≠ []) := by
  unfold join
  rw [if_neg hpath]
  by_cases hlast : directory.toList.getLast? = some '/'
  · obtain ⟨a, ha⟩ := List.getLast?_eq_some_iff.1 hlast
    refine ⟨a, ?_, Or.inl ha⟩
    rw [if_pos (Or.inr hlast), String.toList_append, ha, List.append_assoc]
    rfl
  · refine ⟨directory.toList, ?_, Or.inr ⟨rfl, ?_⟩⟩
    · rw [if_neg (not_or.2 ⟨hdirectory, hlast⟩), String.toList_append, String.toList_append,
        List.append_assoc]
      rfl
    · rw [Ne, String.toList_eq_nil_iff]
      exact hdirectory

theorem join_empty (path : String) : join "" path = path := by
  unfold join
  rw [if_pos (Or.inl rfl), String.empty_append, ite_self]

/-- The text of a path with a dot in front of it. -/
theorem toList_join_dot (hpath : path.toList.head? ≠ some '/') :
    (join "." path).toList = ['.'] ++ '/' :: path.toList := by
  obtain ⟨a, ha, hends | ⟨hends, -⟩⟩ := exists_toList_join hpath (show "." ≠ "" by decide)
  · exact absurd (congrArg List.getLast? hends) (by simp)
  · rw [ha, ← hends]
    rfl

/-- The steps to something in a directory are those to the directory and those behind it. -/
theorem steps_join (hfront : front path.toList = []) :
    steps (join directory path).toList = steps directory.toList ++ steps path.toList := by
  obtain ⟨hslash, -⟩ := front_eq_nil_iff.1 hfront
  have hpath : steps path.toList = (path.toList.splitOn '/').filterMap PathStep.ofSegment? := by
    rw [steps, hfront, List.nil_append]
  by_cases hdirectory : directory = ""
  · rw [hdirectory, join_empty]
    rfl
  · obtain ⟨a, ha, hends⟩ := exists_toList_join hslash hdirectory
    rw [ha, steps_append_slash, hpath]
    rcases hends with hends | ⟨hends, hne⟩
    · -- nothing stands behind the slash at the end of the directory
      rw [hends, steps_append_slash]
      have hnone : (([] : List Char).splitOn '/').filterMap PathStep.ofSegment? = [] := rfl
      rw [hnone, List.append_nil]
    · rw [hends, front_append_singleton hne, steps]

/-! ### Paths that lead down -/

theorem ofSegment?_eq_some_up_iff : PathStep.ofSegment? s = some .up ↔ s = ['.', '.'] := by
  unfold PathStep.ofSegment?
  split_ifs with hnone hup
  · rcases hnone with rfl | rfl
    · simp
    · simp
  · simp [hup]
  · simp [hup]

theorem ofSegment?_isDown_or {step : PathStep} (h : PathStep.ofSegment? s = some step) :
    step.isDown = true ∨ step = .up := by
  unfold PathStep.ofSegment? at h
  split_ifs at h
  · exact Or.inr (Option.some.inj h).symm
  · rw [← Option.some.inj h]
    exact Or.inl rfl

/-- A path leads down when it does not begin with a slash or a dot, and has no two dots for a
segment. -/
theorem all_isDown_iff : (∀ step ∈ steps s, step.isDown = true)
    ↔ s.head? ≠ some '/' ∧ (s.splitOn '/').head? ≠ some ['.'] ∧ ['.', '.'] ∉ s.splitOn '/' := by
  rw [← and_assoc, ← front_eq_nil_iff]
  constructor
  · intro h
    constructor
    · -- what stands in front of a path never leads down
      by_contra hfront
      obtain ⟨step, others, hcons⟩ := List.exists_cons_of_ne_nil hfront
      have hstep : step ∈ front s := by
        rw [hcons]
        exact List.mem_cons_self
      have hdown := h step (List.mem_append_left _ hstep)
      unfold front at hstep
      split_ifs at hstep
      · rw [List.mem_singleton.1 hstep] at hdown
        exact absurd hdown (by decide)
      · rw [List.mem_singleton.1 hstep] at hdown
        exact absurd hdown (by decide)
      · exact absurd hstep List.not_mem_nil
    · intro hup
      have hmem : PathStep.up ∈ steps s :=
        List.mem_append_right _ (List.mem_filterMap.2 ⟨_, hup, ofSegment?_eq_some_up_iff.2 rfl⟩)
      exact absurd (h _ hmem) (by decide)
  · rintro ⟨hfront, hup⟩ step hstep
    rw [steps, hfront, List.nil_append] at hstep
    obtain ⟨segment, hsegment, hof⟩ := List.mem_filterMap.1 hstep
    rcases ofSegment?_isDown_or hof with hdown | rfl
    · exact hdown
    · rw [ofSegment?_eq_some_up_iff.1 hof] at hsegment
      exact absurd hsegment hup

/-- Steps that lead down are names. -/
theorem exists_names_of_all_isDown {l : List PathStep} (h : ∀ step ∈ l, step.isDown = true) :
    ∃ names : List (List Char), l = names.map PathStep.down := by
  induction l with
  | nil => exact ⟨[], rfl⟩
  | cons step l ih =>
    obtain ⟨names, rfl⟩ := ih fun step hstep => h step (List.mem_cons_of_mem _ hstep)
    cases step with
    | down name => exact ⟨name :: names, rfl⟩
    | top | here | up => exact absurd (h _ List.mem_cons_self) (by decide)

/-! ### Names -/

/-- Whether a text can be the name of something in a directory. -/
def IsName (s : List Char) : Prop :=
  s ≠ [] ∧ s ≠ ['.'] ∧ s ≠ ['.', '.'] ∧ '/' ∉ s

instance (s : List Char) : Decidable (IsName s) :=
  inferInstanceAs (Decidable (s ≠ [] ∧ s ≠ ['.'] ∧ s ≠ ['.', '.'] ∧ '/' ∉ s))

theorem ofSegment?_of_isName (h : IsName s) : PathStep.ofSegment? s = some (.down s) := by
  obtain ⟨hne, hdot, hup, -⟩ := h
  unfold PathStep.ofSegment?
  rw [if_neg (not_or.2 ⟨hne, hdot⟩), if_neg hup]

theorem splitOn_of_isName (h : IsName s) : s.splitOn '/' = [s] :=
  List.splitOn_eq_singleton h.2.2.2

/-- A name is one step down. -/
theorem steps_of_isName (h : IsName s) : steps s = [.down s] := by
  have hsplit := splitOn_of_isName h
  have hfront : front s = [] := by
    rw [front_eq_nil_iff, hsplit]
    constructor
    · intro hslash
      obtain ⟨rest, rfl⟩ := List.head?_eq_some_iff.1 hslash
      exact h.2.2.2 List.mem_cons_self
    · intro hdot
      exact h.2.1 (Option.some.inj hdot)
  rw [steps, hfront, hsplit, List.nil_append, List.filterMap_cons, ofSegment?_of_isName h]
  rfl

/-- The steps down of a path are names. -/
theorem isName_of_mem_steps {name : List Char} (h : .down name ∈ steps s) : IsName name := by
  rcases List.mem_append.1 h with hfront | hrest
  · unfold front at hfront
    split_ifs at hfront
    · exact absurd (List.mem_singleton.1 hfront) (by simp)
    · exact absurd (List.mem_singleton.1 hfront) (by simp)
    · exact absurd hfront List.not_mem_nil
  · obtain ⟨segment, hsegment, hof⟩ := List.mem_filterMap.1 hrest
    unfold PathStep.ofSegment? at hof
    split_ifs at hof with hnone hup
    · exact absurd (Option.some.inj hof) (by simp)
    · obtain rfl : segment = name := by simpa using hof
      rw [not_or] at hnone
      exact ⟨hnone.1, hnone.2, hup, (Text.mem_splitOn_iff.1 hsegment).1⟩

/-- Whether a segment leads nowhere but to the directory that it stands in. -/
def stays (s : List Char) : Bool :=
  s = [] || s = ['.']

theorem stays_iff : stays s = true ↔ s = [] ∨ s = ['.'] := by
  rw [stays, Bool.or_eq_true, decide_eq_true_eq, decide_eq_true_eq]

/-- The segments that are names. -/
def namesIn (segments : List (List Char)) : List String :=
  (segments.filter (!stays ·)).map String.ofList

/-- The names in a path. -/
def names (path : List Char) : List String :=
  namesIn (path.splitOn '/')

theorem namesIn_cons_of_stays (h : stays s = true) (segments : List (List Char)) :
    namesIn (s :: segments) = namesIn segments := by
  rw [namesIn, List.filter_cons, h, namesIn]
  rfl

theorem namesIn_cons_of_not_stays (h : stays s = false) (segments : List (List Char)) :
    namesIn (s :: segments) = String.ofList s :: namesIn segments := by
  rw [namesIn, List.filter_cons, h, namesIn]
  rfl

/-! ### Paths that are taken -/

/-- The text of a path in a directory ends with the path. -/
theorem isSuffix_join (directory path : String) :
    path.toList <:+ (join directory path).toList := by
  unfold join
  split_ifs
  · exact List.suffix_refl _
  · rw [String.toList_append]
    exact List.suffix_append _ _
  · rw [String.toList_append]
    exact List.suffix_append _ _

/-- What stands in a directory has a longer path than the directory. -/
theorem isPrefix_join (directory : String) (hpath : path.toList.head? ≠ some '/') :
    directory.toList <+: (join directory path).toList := by
  unfold join
  rw [if_neg hpath]
  split_ifs
  · rw [String.toList_append]
    exact List.prefix_append _ _
  · rw [String.toList_append, String.toList_append, List.append_assoc]
    exact List.prefix_append _ _

/-- A directory whose path is taken with more behind it is taken as well. -/
theorem isTaken_of_join (hne : directory ≠ "") (hpath : path.toList.head? ≠ some '/')
    (h : isTaken (join directory path) = true) : isTaken directory = true := by
  have hbegins := isPrefix_join directory hpath
  have hsize := String.utf8Len_le_of_sublist hbegins.sublist
  rw [String.utf8Len_toList, String.utf8Len_toList] at hsize
  unfold isTaken at h ⊢
  simp only [Bool.and_eq_true, decide_eq_true_eq, Bool.not_eq_true', List.contains_eq_mem,
    decide_eq_false_iff_not] at h ⊢
  refine ⟨⟨hne, by omega⟩, fun hnul => h.2 (hbegins.subset hnul)⟩

theorem nul_not_mem_of_isTaken (h : isTaken (join directory path) = true) :
    '\x00' ∉ path.toList := by
  intro hnul
  have hmem : '\x00' ∈ (join directory path).toList := (isSuffix_join directory path).subset hnul
  unfold isTaken at h
  rw [Bool.and_eq_true, Bool.not_eq_true', List.contains_eq_mem, decide_eq_false_iff_not] at h
  exact h.2 hmem

/-! ### A slash at the end -/

/-- The names in a path do not change with a slash at its end. -/
theorem names_append_slash (path : List Char) : names (path ++ ['/']) = names path := by
  rw [names, List.splitOn_append_cons_self, namesIn, List.filter_append, List.map_append, names,
    namesIn]
  exact List.append_nil _

theorem join_ne_empty (directory : String) (hne : path ≠ "") : join directory path ≠ "" := by
  intro hempty
  have hsuffix := isSuffix_join directory path
  rw [hempty] at hsuffix
  exact hne (String.toList_eq_nil_iff.1 (List.suffix_nil.1 hsuffix))

/-- A slash behind a path is a slash behind what it is joined to. -/
theorem join_append_slash (hne : path ≠ "") :
    join directory (path ++ "/") = join directory path ++ "/" := by
  have hhead : (path ++ "/").toList.head? = path.toList.head? := by
    rw [String.toList_append, List.head?_append_of_ne_nil]
    rw [Ne, String.toList_eq_nil_iff]
    exact hne
  unfold join
  rw [hhead]
  split_ifs
  · rfl
  · rw [String.append_assoc]
  · rw [String.append_assoc, String.append_assoc, String.append_assoc]

/-- What stands in a directory has the same path with a slash behind the directory. -/
theorem join_slash (hne : directory ≠ "") (hlast : directory.toList.getLast? ≠ some '/')
    (hpath : path.toList.head? ≠ some '/') :
    join (directory ++ "/") path = join directory path := by
  have hslash : (directory ++ "/").toList.getLast? = some '/' := by
    rw [String.toList_append]
    exact List.getLast?_concat
  unfold join
  rw [if_neg hpath, if_neg hpath, if_pos (Or.inr hslash), if_neg (not_or.2 ⟨hne, hlast⟩)]

theorem getLast?_join (hne : path ≠ "") :
    (join directory path).toList.getLast? = path.toList.getLast? := by
  obtain ⟨front, hfront⟩ := isSuffix_join directory path
  rw [← hfront, List.getLast?_append_of_ne_nil]
  rw [Ne, String.toList_eq_nil_iff]
  exact hne

/-! ### Working out the dots -/

/-- One more step behind others that have been worked out.  Above the top there is nothing, and
above a beginning that is not known one can only say how far up. -/
def follow (before : List PathStep) : PathStep → List PathStep
  | .top => [.top]
  | .here => before
  | .down name => before ++ [.down name]
  | .up =>
    match before.getLast? with
    | some (.down _) => before.dropLast
    | some .top => before
    | _ => before ++ [.up]

/-- What is left of some steps when the dots among them are worked out. -/
def normal (l : List PathStep) : List PathStep :=
  l.foldl follow []

/-- Whether a path stays inside a directory, by its text alone: what is left of it goes down from
what is left of the directory. -/
def IsInside (directory path : String) : Prop :=
  ∃ names : List (List Char),
    normal (steps path.toList) = normal (steps directory.toList) ++ names.map .down

/-- Behind what is left of some steps, steps down are left as they are. -/
theorem foldl_follow_downs (before : List PathStep) (names : List (List Char)) :
    (names.map PathStep.down).foldl follow before = before ++ names.map .down := by
  induction names generalizing before with
  | nil => rw [List.map_nil, List.foldl_nil, List.append_nil]
  | cons name names ih =>
    rw [List.map_cons, List.foldl_cons, ih]
    show before ++ [.down name] ++ names.map .down = before ++ .down name :: names.map .down
    rw [List.append_assoc, List.singleton_append]

theorem normal_append_downs (l : List PathStep) (names : List (List Char)) :
    normal (l ++ names.map .down) = normal l ++ names.map .down := by
  rw [normal, List.foldl_append, foldl_follow_downs, normal]

/-- What leads down stays inside the directory that it stands in. -/
theorem isInside_join (hdown : ∀ step ∈ steps path.toList, step.isDown = true) :
    IsInside directory (join directory path) := by
  obtain ⟨hslash, hdot, -⟩ := all_isDown_iff.1 hdown
  obtain ⟨names, hnames⟩ := exists_names_of_all_isDown hdown
  refine ⟨names, ?_⟩
  rw [steps_join (front_eq_nil_iff.2 ⟨hslash, hdot⟩), hnames, normal_append_downs]

theorem IsInside.refl (directory : String) : IsInside directory directory := by
  refine ⟨[], ?_⟩
  rw [List.map_nil, List.append_nil]

theorem IsInside.trans {inner : String} (h : IsInside directory inner) (h' : IsInside inner path) :
    IsInside directory path := by
  obtain ⟨names, hnames⟩ := h
  obtain ⟨names', hnames'⟩ := h'
  refine ⟨names ++ names', ?_⟩
  rw [hnames', hnames, List.map_append, List.append_assoc]

/-- A dot in front of a path is nothing when the dots are worked out. -/
theorem normal_steps_join_dot (directory : String) :
    normal (steps (join "." directory).toList) = normal (steps directory.toList) := by
  by_cases hslash : directory.toList.head? = some '/'
  · rw [join, if_pos hslash]
  · have hhere : steps (join "." directory).toList
        = .here :: (directory.toList.splitOn '/').filterMap PathStep.ofSegment? := by
      rw [toList_join_dot hslash, steps_append_slash]
      rfl
    rw [hhere, steps]
    unfold front
    rw [if_neg hslash]
    split_ifs
    · rfl
    · rfl

/-- Names behind a directory stay inside it. -/
theorem isInside_foldl_join (directory : String) {names : List String}
    (h : ∀ name ∈ names, IsName name.toList) :
    IsInside directory (names.foldl join directory) := by
  induction names generalizing directory with
  | nil => exact IsInside.refl directory
  | cons name names ih =>
    rw [List.forall_mem_cons] at h
    have hdown : ∀ step ∈ steps name.toList, step.isDown = true := by
      rw [steps_of_isName h.1]
      simp [PathStep.isDown]
    exact (isInside_join hdown).trans (ih _ h.2)

end AuthGateway.FilePath
