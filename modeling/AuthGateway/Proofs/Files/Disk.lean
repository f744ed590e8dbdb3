import AuthGateway.Files.Site
import AuthGateway.Proofs.Files.Path

/-!
# A disk with the tree on it

A site knows the tree of its files.  On a disk that tree stands at a path, among other files, and
there is a way up from each directory.  What the file system finds at a path, dots and all, is
`Disk.at?`; it is asked about two paths for each request (`Disk.showsAt`), and the answer is the one
that the site finds in its tree (`Disk.shows_site`).  Names behind a directory lead to what the tree
has for them (`Disk.at?_foldl_join`).
-/

namespace AuthGateway

/-! ### Below a tree -/

namespace FileTree

variable {t u : FileTree} {segments : List String}

theorem at?_append (t : FileTree) (names more : List String) :
    t.at? (names ++ more) = (t.at? names).bind (·.at? more) := by
  induction names generalizing t with
  | nil => rfl
  | cons name names ih =>
    rw [List.cons_append, at?, at?, Option.bind_assoc]
    congr 1
    funext child
    exact ih child

theorem at?_singleton (t : FileTree) (name : String) : t.at? [name] = t.child? name := by
  rw [at?]
  exact Option.bind_fun_some _

theorem child?_of_not_isDirectory (h : ¬ t.isDirectory = true) (name : String) :
    t.child? name = none := by
  cases t with
  | file f => rfl
  | directory modified entries => exact absurd rfl h

/-- No segment of a path leads on from a file. -/
theorem locate?_cons_of_not_isDirectory (h : ¬ t.isDirectory = true) (s : String) :
    t.locate? (s :: segments) = none := by
  rw [locate?, if_neg h, child?_of_not_isDirectory h, Option.bind_none, ite_self]

theorem locate?_append (t : FileTree) (segments more : List String) :
    t.locate? (segments ++ more) = (t.locate? segments).bind (·.locate? more) := by
  induction segments generalizing t with
  | nil => rfl
  | cons s segments ih =>
    rw [List.cons_append, locate?, locate?]
    split_ifs
    · exact ih t
    · rfl
    · rw [Option.bind_assoc]
      congr 1
      funext child
      exact ih child

theorem locate?_singleton (t : FileTree) {s : String} (hstay : ¬ (s = "" ∨ s = ".")) :
    t.locate? [s] = t.child? s := by
  rw [locate?, if_neg hstay]
  exact Option.bind_fun_some _

/-- An empty segment in front of others changes nothing. -/
theorem locate?_blank_cons (t : FileTree) (s : String) (segments : List String) :
    t.locate? ("" :: s :: segments) = t.locate? (s :: segments) := by
  by_cases hdirectory : t.isDirectory = true
  · rw [locate?, if_pos (Or.inl rfl), if_pos hdirectory]
  · rw [locate?_cons_of_not_isDirectory hdirectory, locate?_cons_of_not_isDirectory hdirectory]

end FileTree

/-! ### Paths on a disk -/

/-- A disk: everything there is below the top, and the directory in which the process works, by the
names that lead to it. -/
structure Disk where
  top : FileTree
  here : List String

namespace Disk

/-- The segments of a path. -/
def segments (path : String) : List String :=
  (path.toList.splitOn '/').map String.ofList

/-- Where a segment of a path leads from some names.  Nothing leads on but from a directory. -/
def step (disk : Disk) (names : List String) (s : String) : Option (List String) :=
  if (disk.top.at? names).any FileTree.isDirectory then
    if s = "" ∨ s = "." then some names
    else if s = ".." then some names.dropLast
    else if (disk.top.at? (names ++ [s])).isSome then some (names ++ [s])
    else none
  else none

/-- Where a path begins. -/
def start (disk : Disk) (path : String) : List String :=
  if path.toList.head? = some '/' then [] else disk.here

/-- What some segments lead to from some names. -/
def reach (disk : Disk) (names : List String) (segments : List String) : Option FileTree :=
  (segments.foldlM disk.step names).bind disk.top.at?

/-- What stands at a path. -/
def at? (disk : Disk) (path : String) : Option FileTree :=
  disk.reach (disk.start path) (segments path)

/-- What the file system tells about a path, if it takes it. -/
def metadata? (disk : Disk) (path : String) : Option FileTree :=
  if FilePath.isTaken path then disk.at? path else none

/-- Whether there is something to show at a path: a file, or a directory with a page. -/
def showsAt (disk : Disk) (path : String) : Bool :=
  match disk.metadata? path with
  | some (.file _) => true
  | some (.directory _ _) =>
    ((disk.metadata? (FilePath.join path FileTree.indexName)).bind FileTree.file?).isSome
  | none => false

/-- The site over a directory of the disk.  There is nothing to show where there is no directory. -/
def site (disk : Disk) (directory webPrefix : String) : Site :=
  ⟨directory, (disk.at? directory).getD (.empty 0), webPrefix⟩

variable {disk : Disk} {directory path : String} {names : List String} {l : List String}

theorem segments_ne_nil (path : String) : segments path ≠ [] := by
  unfold segments
  rw [Ne, List.map_eq_nil_iff]
  exact List.splitOn_ne_nil '/' path.toList

theorem mem_segments_iff {s : String} : s ∈ segments path ↔ s.toList ∈ path.toList.splitOn '/' := by
  unfold segments
  rw [List.mem_map]
  constructor
  · rintro ⟨segment, hsegment, rfl⟩
    rw [String.toList_ofList]
    exact hsegment
  · intro h
    exact ⟨s.toList, h, String.ofList_toList⟩

theorem reach_cons (names : List String) (s : String) (l : List String) :
    disk.reach names (s :: l) = (disk.step names s).bind (disk.reach · l) := by
  rw [reach, List.foldlM_cons]
  exact Option.bind_assoc _ _ _

/-- Without two dots, segments lead where they do in the tree. -/
theorem reach_eq (hup : ".." ∉ l) :
    disk.reach names l = (disk.top.at? names).bind (·.locate? l) := by
  -- a step checks that it is taken from a directory, as the tree does for each segment
  induction l generalizing names with
  | nil =>
    show disk.top.at? names = (disk.top.at? names).bind some
    rw [Option.bind_fun_some]
  | cons s l ih =>
    rw [List.mem_cons, not_or] at hup
    rw [reach_cons]
    cases hat : disk.top.at? names with
    | none =>
      rw [step, hat]
      rfl
    | some t =>
      rw [Option.bind_some, step, hat, Option.any_some]
      by_cases hdirectory : t.isDirectory = true
      · rw [if_pos hdirectory, FileTree.locate?]
        by_cases hstay : s = "" ∨ s = "."
        · rw [if_pos hstay, if_pos hstay, if_pos hdirectory, Option.bind_some, ih hup.2, hat,
            Option.bind_some]
        · have hchild : disk.top.at? (names ++ [s]) = t.child? s := by
            rw [FileTree.at?_append, hat, Option.bind_some, FileTree.at?_singleton]
          rw [if_neg hstay, if_neg hstay, if_neg (Ne.symm hup.1), hchild]
          cases hc : t.child? s with
          | none => rfl
          | some u =>
            rw [Option.isSome_some, if_pos rfl, Option.bind_some, ih hup.2, hchild, hc]
      · rw [if_neg hdirectory, FileTree.locate?_cons_of_not_isDirectory hdirectory]
        rfl

/-- Segments behind others lead on in the tree. -/
theorem reach_append {more : List String} (hup : ".." ∉ more) :
    disk.reach names (l ++ more) = (disk.reach names l).bind (·.locate? more) := by
  have hwalk : disk.reach names (l ++ more)
      = (l.foldlM disk.step names).bind (disk.reach · more) := by
    rw [reach, List.foldlM_append]
    exact Option.bind_assoc _ _ _
  rw [hwalk, reach, Option.bind_assoc]
  congr 1
  funext names'
  exact reach_eq hup

/-- An empty segment between others changes nothing. -/
theorem reach_blank {more : List String} (hne : more ≠ []) :
    (disk.reach names (l ++ [""])).bind (·.locate? more)
      = (disk.reach names l).bind (·.locate? more) := by
  obtain ⟨s, rest, rfl⟩ := List.exists_cons_of_ne_nil hne
  rw [reach_append (by decide), Option.bind_assoc]
  congr 1
  funext t
  rw [← FileTree.locate?_append]
  exact FileTree.locate?_blank_cons t s rest

/-- What stands in a directory is found from the directory on. -/
theorem at?_join (hslash : path.toList.head? ≠ some '/') (hup : ".." ∉ segments path) :
    disk.at? (FilePath.join directory path)
      = (disk.at? directory).bind (·.locate? (segments path)) := by
  by_cases hdirectory : directory = ""
  · have hstart : disk.start path = disk.here := if_neg hslash
    rw [hdirectory, FilePath.join_empty, at?, hstart]
    have hhere : disk.at? "" = disk.reach disk.here ([] ++ [""]) := rfl
    rw [hhere, reach_blank (segments_ne_nil path), ← reach_append hup, List.nil_append]
  · obtain ⟨a, ha, hends⟩ := FilePath.exists_toList_join hslash hdirectory
    have hsegments : segments (FilePath.join directory path)
        = (a.splitOn '/').map String.ofList ++ segments path := by
      rw [segments, ha, List.splitOn_append_cons_self, List.map_append]
      rfl
    have hstart : disk.start (FilePath.join directory path) = disk.start directory := by
      unfold start
      rw [ha]
      rcases hends with hends | ⟨hends, hne⟩
      · rw [hends]
        cases a with
        | nil => rfl
        | cons c a => rfl
      · rw [hends, List.head?_append_of_ne_nil _ hne]
    rw [at?, hsegments, hstart, reach_append hup, at?]
    rcases hends with hends | ⟨hends, -⟩
    · -- the slash at the end of the directory stands for a segment of its own
      have hdirectorySegments : segments directory = (a.splitOn '/').map String.ofList ++ [""] := by
        rw [segments, hends, List.splitOn_append_cons_self, List.map_append]
        rfl
      rw [hdirectorySegments, reach_blank (segments_ne_nil path)]
    · rw [← hends]
      rfl

/-! ### What is asked about -/

/-- What there is to show at a path is known from what stands there. -/
theorem showsAt_eq (disk : Disk) (path : String) :
    disk.showsAt path = (disk.at? path).any (·.isShown path) := by
  have hpage : disk.at? (FilePath.join path FileTree.indexName)
      = (disk.at? path).bind (·.locate? [FileTree.indexName]) :=
    at?_join (by decide) (by decide)
  unfold showsAt metadata?
  by_cases htaken : FilePath.isTaken path = true
  · rw [if_pos htaken, hpage]
    cases hat : disk.at? path with
    | none => rfl
    | some t =>
      unfold FileTree.isShown
      rw [Option.any_some, htaken, Bool.true_and]
      cases t with
      | file f => rfl
      | directory modified entries =>
        dsimp only
        rw [Option.bind_some, FileTree.locate?_singleton _ (by decide)]
        by_cases hindex : FilePath.isTaken (FilePath.join path FileTree.indexName) = true
        · rw [if_pos hindex, hindex, Bool.true_and]
        · rw [if_neg hindex, eq_false_of_ne_true hindex]
          rfl
  · rw [if_neg htaken]
    cases hat : disk.at? path with
    | none => rfl
    | some t =>
      unfold FileTree.isShown
      rw [Option.any_some, eq_false_of_ne_true htaken, Bool.false_and]

/-- There is nothing to show in an empty directory. -/
theorem any_isShown_empty (time : Int) (l : List String) (path : String) :
    ((FileTree.empty time).locate? l).any (·.isShown path) = false := by
  induction l with
  | nil =>
    rw [FileTree.locate?, Option.any_some]
    simp [FileTree.isShown, FileTree.empty, FileTree.child?]
  | cons s l ih =>
    rw [FileTree.locate?]
    by_cases hstay : s = "" ∨ s = "."
    · rw [if_pos hstay]
      exact ih
    · rw [if_neg hstay]
      rfl

/-- What the site shows is what there is to show on the disk, at the path below the directory. -/
theorem shows_site {webPrefix : String} {relative : List Char}
    (hslash : relative.head? ≠ some '/') (hup : ['.', '.'] ∉ relative.splitOn '/') :
    (disk.site directory webPrefix).shows relative
      = disk.showsAt (FilePath.join directory (String.ofList relative)) := by
  have hlist : (String.ofList relative).toList = relative := String.toList_ofList
  have hat : disk.at? (FilePath.join directory (String.ofList relative))
      = (disk.at? directory).bind (·.locate? ((relative.splitOn '/').map String.ofList)) := by
    rw [at?_join, segments, hlist]
    · rw [hlist]
      exact hslash
    · rw [mem_segments_iff, hlist]
      exact hup
  rw [showsAt_eq, hat, site, Site.shows, Site.locate?]
  cases disk.at? directory with
  | none => exact any_isShown_empty 0 _ _
  | some t => rfl

/-! ### What is opened -/

/-- A dot in front of other segments changes nothing. -/
theorem reach_dot_cons (hne : l ≠ []) :
    disk.reach disk.here ("." :: l) = disk.reach disk.here l := by
  obtain ⟨s, rest, rfl⟩ := List.exists_cons_of_ne_nil hne
  by_cases hdirectory : (disk.top.at? disk.here).any FileTree.isDirectory = true
  · rw [reach_cons, step, if_pos hdirectory, if_pos (Or.inr rfl), Option.bind_some]
  · rw [reach_cons, reach_cons, step, step, if_neg hdirectory, if_neg hdirectory]
    rfl

/-- To begin with a dot changes nothing. -/
theorem at?_join_dot (disk : Disk) (directory : String) :
    disk.at? (FilePath.join "." directory) = disk.at? directory := by
  by_cases hslash : directory.toList.head? = some '/'
  · rw [FilePath.join, if_pos hslash]
  · have htext := FilePath.toList_join_dot hslash
    have hsegments : segments (FilePath.join "." directory) = "." :: segments directory := by
      rw [segments, htext, List.splitOn_append_cons_self, List.map_append]
      rfl
    have hstart : disk.start (FilePath.join "." directory) = disk.here := by
      rw [start, htext]
      rfl
    rw [at?, at?, hsegments, hstart, reach_dot_cons (segments_ne_nil directory), start,
      if_neg hslash]

/-- Behind a directory, names lead on in its tree. -/
theorem at?_foldl_join {names : List String} (h : ∀ name ∈ names, FilePath.IsName name.toList) :
    disk.at? (names.foldl FilePath.join directory) = (disk.at? directory).bind (·.at? names) := by
  induction names generalizing directory with
  | nil => exact (Option.bind_fun_some _).symm
  | cons name names ih =>
    rw [List.forall_mem_cons] at h
    have hsegments : segments name = [name] := by
      rw [segments, FilePath.splitOn_of_isName h.1, List.map_singleton, String.ofList_toList]
    obtain ⟨hne, hdot, hup, hslash⟩ := h.1
    have hjoin : disk.at? (FilePath.join directory name)
        = (disk.at? directory).bind (·.child? name) := by
      rw [at?_join, hsegments]
      · congr 1
        funext t
        refine FileTree.locate?_singleton t (not_or.2 ⟨?_, ?_⟩)
        · rintro rfl
          exact hne rfl
        · rintro rfl
          exact hdot rfl
      · exact fun hhead => hslash (List.mem_of_mem_head? hhead)
      · rw [hsegments, List.mem_singleton]
        rintro rfl
        exact hup rfl
    rw [List.foldl_cons, ih h.2, hjoin, Option.bind_assoc]
    rfl

end Disk

end AuthGateway
