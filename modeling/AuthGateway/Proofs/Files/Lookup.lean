import AuthGateway.Proofs.Encoding.Percent
import AuthGateway.Proofs.Files.Containment
import AuthGateway.Proofs.Files.Server

/-!
# Looking up a file, and serving it

The path of a request names a file when it is decoded (`Site.Names`).  The site looks for the path
as it stands, however, and only then the file server decodes it.  A file is served under a path that
names it exactly when there is something under the path as it stands too.

So the two agree on every tree for the paths that decoding leaves as they are, and for no others:
decoding makes the names of a path weigh less (`Percent.weightOf`), so that in a tree with no names
but those of the path as it stands there is nothing under the decoded one
(`FileTree.at?_nested`).
-/

namespace AuthGateway

/-! ### Names in a tree -/

namespace FileTree

variable {t u : FileTree} {path : String}

/-- A tree follows the segments of a path by the names among them. -/
theorem locate?_map_cons (t : FileTree) (s : List Char) (segments : List (List Char)) :
    t.locate? ((s :: segments).map String.ofList)
      = if FilePath.stays s = true then
          if t.isDirectory then t.locate? (segments.map String.ofList) else none
        else (t.child? (String.ofList s)).bind (·.locate? (segments.map String.ofList)) := by
  have hstays : (String.ofList s = "" ∨ String.ofList s = ".") ↔ FilePath.stays s = true := by
    rw [FilePath.stays_iff, ← String.ofList_nil, show "." = String.ofList ['.'] from rfl,
      String.ofList_inj, String.ofList_inj]
  rw [List.map_cons, locate?]
  exact if_congr hstays rfl rfl

/-- What the segments of a path lead to is what the names among them lead to. -/
theorem at?_of_locate? {segments : List (List Char)}
    (h : t.locate? (segments.map String.ofList) = some u) :
    t.at? (FilePath.namesIn segments) = some u := by
  induction segments generalizing t with
  | nil => exact h
  | cons s segments ih =>
    rw [locate?_map_cons] at h
    cases hstay : FilePath.stays s with
    | true =>
      rw [if_pos hstay] at h
      rw [FilePath.namesIn_cons_of_stays hstay]
      split_ifs at h
      exact ih h
    | false =>
      rw [if_neg (ne_true_of_eq_false hstay)] at h
      rw [FilePath.namesIn_cons_of_not_stays hstay, at?]
      obtain ⟨child, hchild, hrest⟩ := Option.bind_eq_some_iff.1 h
      rw [hchild]
      exact ih hrest

/-- A tree with nothing in it but a page, under some names. -/
def nested : List String → FileTree
  | [] => .directory 0 [(indexName, .file ⟨[], 0⟩)]
  | name :: names => .directory 0 [(name, nested names)]

theorem child?_nested_cons (name : String) (names : List String) (n : String) :
    (nested (name :: names)).child? n = if n = name then some (nested names) else none := by
  rw [nested, child?, List.lookup_cons]
  by_cases hn : n = name
  · rw [hn, if_pos rfl, beq_self_eq_true]
  · rw [if_neg hn, beq_false_of_ne hn]
    rfl

theorem isDirectory_nested (names : List String) : (nested names).isDirectory = true := by
  cases names with
  | nil => rfl
  | cons name names => rfl

theorem file?_nested (names : List String) : (nested names).file? = none := by
  cases names with
  | nil => rfl
  | cons name names => rfl

/-- The page stands where the names lead that it was put under. -/
theorem locate?_nested (segments : List (List Char)) :
    (nested (FilePath.namesIn segments)).locate? (segments.map String.ofList)
      = some (nested []) := by
  induction segments with
  | nil => rfl
  | cons s segments ih =>
    rw [locate?_map_cons]
    cases hstay : FilePath.stays s with
    | true =>
      rw [if_pos rfl, FilePath.namesIn_cons_of_stays hstay, if_pos (isDirectory_nested _)]
      exact ih
    | false =>
      rw [if_neg (by decide), FilePath.namesIn_cons_of_not_stays hstay, child?_nested_cons,
        if_pos rfl]
      exact ih

/-- There is nothing else to show in such a tree. -/
theorem at?_nested {names l : List String} (hat : (nested names).at? l = some t)
    (hshown : t.isShown path = true) : l = names ∨ l = names ++ [indexName] := by
  induction names generalizing l with
  | nil =>
    cases l with
    | nil => exact Or.inl rfl
    | cons n l =>
      obtain ⟨child, hchild, hrest⟩ := Option.bind_eq_some_iff.1 hat
      rw [nested, child?, List.lookup_cons] at hchild
      split at hchild
      · rename_i hn
        cases l with
        | nil =>
          rw [eq_of_beq hn]
          exact Or.inr rfl
        | cons n' l =>
          rw [← Option.some.inj hchild] at hrest
          exact absurd hrest (by simp [at?, child?])
      · exact absurd hchild (by simp)
  | cons name names ih =>
    cases l with
    | nil =>
      -- a directory with a directory in it has no page
      obtain rfl := Option.some.inj hat
      unfold isShown at hshown
      rw [Bool.and_eq_true] at hshown
      have hpage := hshown.2
      rw [nested] at hpage
      dsimp only at hpage
      rw [← nested, child?_nested_cons, Bool.and_eq_true] at hpage
      split_ifs at hpage
      · rw [Option.bind_some, file?_nested] at hpage
        exact absurd hpage.2 (by simp)
      · exact absurd hpage.2 (by simp)
    | cons n l =>
      obtain ⟨child, hchild, hrest⟩ := Option.bind_eq_some_iff.1 hat
      rw [child?_nested_cons] at hchild
      split_ifs at hchild with hn
      rw [← Option.some.inj hchild] at hrest
      rcases ih hrest with rfl | rfl
      · exact Or.inl (by rw [hn])
      · exact Or.inr (by rw [hn]; rfl)

end FileTree

/-! ### What the file server makes of a path -/

namespace FileServer

variable {root : FileTree} {headOnly : Bool} {h : Headers} {uri : Uri} {names : List String}
  {relative : List Char} {decoded : String} {f : File}

/-- Steps that lead neither up nor to the top are the names among the segments. -/
theorem names?_filterMap {segments : List (List Char)} (hup : ['.', '.'] ∉ segments) :
    names? (segments.filterMap PathStep.ofSegment?) = some (FilePath.namesIn segments) := by
  induction segments with
  | nil => rfl
  | cons s segments ih =>
    rw [List.mem_cons, not_or] at hup
    rw [List.filterMap_cons]
    cases hstay : FilePath.stays s with
    | true =>
      have hnone : PathStep.ofSegment? s = none := if_pos (FilePath.stays_iff.1 hstay)
      rw [hnone, FilePath.namesIn_cons_of_stays hstay]
      exact ih hup.2
    | false =>
      have hname : PathStep.ofSegment? s = some (.down s) := by
        unfold PathStep.ofSegment?
        rw [if_neg (mt FilePath.stays_iff.2 (ne_true_of_eq_false hstay)), if_neg (Ne.symm hup.1)]
      rw [hname, FilePath.namesIn_cons_of_not_stays hstay]
      dsimp only
      rw [names?, ih hup.2]
      rfl

theorem names?_steps {path : List Char} (hslash : path.head? ≠ some '/')
    (hup : ['.', '.'] ∉ path.splitOn '/') :
    names? (FilePath.steps path) = some (FilePath.names path) := by
  unfold FilePath.steps FilePath.front
  rw [if_neg hslash]
  split_ifs
  · exact names?_filterMap hup
  · exact names?_filterMap hup

/-- A path behind a slash leads where the names lead that it stands for. -/
theorem target_slash (hrelative : relative.head? ≠ some '/')
    (hdecoded : Percent.decode? (String.ofList relative) = some decoded)
    (hslash : decoded.toList.head? ≠ some '/') (hup : ['.', '.'] ∉ decoded.toList.splitOn '/')
    (hnul : '\x00' ∉ decoded.toList) :
    target (String.ofList ('/' :: relative)) = .names (FilePath.names decoded.toList) := by
  have hcontains : decoded.toList.contains '\x00' = false := by
    rw [List.contains_eq_mem, decide_eq_false_iff_not]
    exact hnul
  unfold target
  rw [String.toList_ofList, Site.dropWhile_slash_cons hrelative, hdecoded]
  dsimp only
  rw [names?_steps hslash hup, hcontains]
  rfl

/-- Whether the fields of a request ask for a file as it is, whole and at any time. -/
def IsUnconditional (h : Headers) : Prop :=
  h.get? "range" = none ∧ h.get? "if-modified-since" = none ∧ h.get? "if-unmodified-since" = none

instance (h : Headers) : Decidable (IsUnconditional h) :=
  inferInstanceAs (Decidable (_ ∧ _ ∧ _))

/-- A file that is asked for as it is comes whole. -/
theorem answerFile_of_isUnconditional (hplain : IsUnconditional h) :
    answerFile headOnly h names f
      = about (names.getLast?.getD "") 200 [] (if headOnly then [] else f.content) := by
  obtain ⟨hrange, hmodified, hunmodified⟩ := hplain
  unfold answerFile conditional? date?
  rw [hmodified, hunmodified]
  unfold ofFile
  rw [hrange]
  rfl

end FileServer

/-! ### What a request names -/

namespace Site

variable {s : Site} {c : Conditions} {r : Request} {relative : List Char} {t : FileTree}

/-- Whether a path names a tree of a site, once it is decoded: it stays in the directory, it leads
to the tree, and the tree is a file or a directory with a page. -/
def Names (s : Site) (relative : List Char) (t : FileTree) : Prop :=
  ∃ decoded, Percent.decode? (String.ofList relative) = some decoded
    ∧ decoded.toList.head? ≠ some '/' ∧ ['.', '.'] ∉ decoded.toList.splitOn '/'
    ∧ s.locate? decoded.toList = some t
    ∧ t.isShown (FilePath.join s.directory decoded) = true

/-- Whether a site answers a request as the tree that the path names demands: with the file, and not
at all when there is nothing to name. -/
structure Agrees (s : Site) (c : Conditions) (r : Request) (relative : List Char) : Prop where
  file : ∀ f, s.Names relative (.file f) → ∃ response,
    (Gate.static s).enter c r = (.answer response, []) ∧ response.status = 200
      ∧ response.body = if r.method = "HEAD" then [] else f.content
  absent : (¬ ∃ t, s.Names relative t) → (Gate.static s).enter c r = (.forward r, [])

/-- The file server finds what a path names. -/
theorem Names.exists_target (h : s.Names relative t) (hrelative : relative.head? ≠ some '/') :
    ∃ names, FileServer.target (String.ofList ('/' :: relative)) = .names names
      ∧ s.root.at? names = some t := by
  obtain ⟨decoded, hdecoded, hslash, hup, hlocate, hshown⟩ := h
  unfold FileTree.isShown at hshown
  rw [Bool.and_eq_true] at hshown
  have hnul := FilePath.nul_not_mem_of_isTaken hshown.1
  exact ⟨_, FileServer.target_slash hrelative hdecoded hslash hup hnul,
    FileTree.at?_of_locate? hlocate⟩

/-- What the site has nothing for goes on. -/
theorem enter_of_not_shows
    (hrelative : relativePath? s.webPrefix.toList r.uri.path.toList = some relative)
    (hshows : s.shows relative = false) : (Gate.static s).enter c r = (.forward r, []) := by
  have hnone : s.serverUri? r.uri = none := by
    unfold serverUri?
    rw [hrelative]
    exact if_neg (ne_true_of_eq_false hshows)
  show (Gate.enterSite s r, []) = (Passage.forward r, [])
  rw [Gate.enterSite, Gate.siteOutcome?, hnone, Option.map_none, ite_self]

/-- What the site has something for is what the file server answers. -/
theorem enter_of_shows (hasks : Method.asksForPage r.method = true)
    (hrelative : relativePath? s.webPrefix.toList r.uri.path.toList = some relative)
    (hshows : s.shows relative = true) : (Gate.static s).enter c r
      = (.settled (FileServer.answer s.root (r.method == "HEAD") r.headers
          (.relative (String.ofList ('/' :: relative)) r.uri.query)), []) := by
  show (Gate.enterSite s r, []) = _
  rw [Gate.enterSite, Gate.siteOutcome?, if_pos hasks, serverUri?_of_shows hrelative hshows]
  rfl

/-- A file that a path names is sent whole, when the site has something for the path. -/
theorem Names.answer_file {f : File} (h : s.Names relative (.file f))
    (hslash : relative.head? ≠ some '/') (hplain : FileServer.IsUnconditional r.headers) :
    ∃ name, FileServer.answer s.root (r.method == "HEAD") r.headers
        (.relative (String.ofList ('/' :: relative)) r.uri.query)
      = .answered (FileServer.about name 200 [] (if r.method = "HEAD" then [] else f.content)) := by
  obtain ⟨names, htarget, hat⟩ := h.exists_target hslash
  refine ⟨names.getLast?.getD "", ?_⟩
  unfold FileServer.answer
  rw [Uri.relative, htarget]
  dsimp only
  unfold FileServer.answerNames
  rw [hat]
  dsimp only
  rw [FileServer.answerFile_of_isUnconditional hplain]
  simp only [beq_iff_eq]

/-- A site agrees with a path on its tree exactly when it has something for the path as it stands,
whenever the path names a file, and then the path names something. -/
theorem agrees_iff (hasks : Method.asksForPage r.method = true)
    (hplain : FileServer.IsUnconditional r.headers)
    (hrelative : relativePath? s.webPrefix.toList r.uri.path.toList = some relative) :
    s.Agrees c r relative ↔ ((∃ f, s.Names relative (.file f)) → s.shows relative = true)
      ∧ (s.shows relative = true → ∃ t, s.Names relative t) := by
  have hslash := (FilePath.all_isDown_iff.1 (isDown_of_relativePath? hrelative)).1
  cases hshows : s.shows relative with
  | false =>
    -- the request goes on, which is right when there is no file to send
    have henter := enter_of_not_shows (c := c) hrelative hshows
    constructor
    · intro h
      refine ⟨?_, fun hshown => absurd hshown (by decide)⟩
      rintro ⟨f, hf⟩
      obtain ⟨response, hanswer, -⟩ := h.file f hf
      rw [henter] at hanswer
      exact absurd hanswer (by simp [Passage.answer])
    · rintro ⟨hfile, -⟩
      refine ⟨fun f hf => ?_, fun _ => henter⟩
      exact absurd (hfile ⟨f, hf⟩) (by decide)
  | true =>
    -- the file server settles the request, which is right when there is something to name
    have henter := enter_of_shows (c := c) hasks hrelative hshows
    constructor
    · intro h
      refine ⟨fun _ => rfl, fun _ => ?_⟩
      by_contra hnone
      have hforward := h.absent hnone
      rw [henter] at hforward
      exact absurd hforward (by simp)
    · rintro ⟨-, hnames⟩
      refine ⟨fun f hf => ?_, fun hnone => absurd (hnames rfl) hnone⟩
      obtain ⟨name, hanswer⟩ := hf.answer_file hslash hplain
      rw [henter, hanswer]
      exact ⟨_, rfl, rfl, rfl⟩

/-- A path that is not changed by decoding names what the site has for it. -/
theorem names_iff_of_decode?_eq_self
    (hself : Percent.decode? (String.ofList relative) = some (String.ofList relative))
    (hdown : ∀ step ∈ FilePath.steps relative, step.isDown = true) :
    s.Names relative t ↔ s.locate? relative = some t
      ∧ t.isShown (FilePath.join s.directory (String.ofList relative)) = true := by
  obtain ⟨hslash, -, hup⟩ := FilePath.all_isDown_iff.1 hdown
  constructor
  · rintro ⟨decoded, hdecoded, -, -, hlocate, hshown⟩
    rw [hself] at hdecoded
    obtain rfl := Option.some.inj hdecoded
    rw [String.toList_ofList] at hlocate
    exact ⟨hlocate, hshown⟩
  · rintro ⟨hlocate, hshown⟩
    refine ⟨_, hself, ?_, ?_, ?_, hshown⟩
    · rw [String.toList_ofList]
      exact hslash
    · rw [String.toList_ofList]
      exact hup
    · rw [String.toList_ofList]
      exact hlocate

theorem shows_iff : s.shows relative = true ↔ ∃ t, s.locate? relative = some t
    ∧ t.isShown (FilePath.join s.directory (String.ofList relative)) = true := by
  rw [shows, Option.any_eq_true]

/-! ### What decoding takes from a path -/

/-- A path weighs what its names weigh. -/
theorem weightOf_eq (path : List Char) : Percent.weightOf path
    = Percent.weightOf ((FilePath.names path).flatMap String.toList) := by
  have hpath : Percent.weightOf path = Percent.weightOf (path.splitOn '/').flatten := by
    rw [← Percent.weightOf_intercalate, List.intercalate_splitOn]
  rw [hpath, FilePath.names]
  induction path.splitOn '/' with
  | nil => rfl
  | cons s segments ih =>
    rw [List.flatten_cons, Percent.weightOf_append, ih]
    cases hstay : FilePath.stays s with
    | true =>
      have hzero : Percent.weightOf s = 0 := by
        rcases FilePath.stays_iff.1 hstay with rfl | rfl
        · rfl
        · decide
      rw [FilePath.namesIn_cons_of_stays hstay, hzero, Nat.zero_add]
    | false =>
      rw [FilePath.namesIn_cons_of_not_stays hstay, List.flatMap_cons, Percent.weightOf_append,
        String.toList_ofList]

/-- In a tree with nothing but a page under the names of a path, only a path that decoding leaves as
it is names something. -/
theorem Names.decode?_eq_self {directory webPrefix : String}
    (h : Names ⟨directory, .nested (FilePath.names relative), webPrefix⟩ relative t) :
    Percent.decode? (String.ofList relative) = some (String.ofList relative) := by
  obtain ⟨decoded, hdecoded, -, -, hlocate, hshown⟩ := h
  have hle := Percent.weightOf_le_of_decode? hdecoded
  have hat : (FileTree.nested (FilePath.names relative)).at? (FilePath.names decoded.toList)
      = some t := FileTree.at?_of_locate? hlocate
  have hweight : Percent.weightOf relative ≤ Percent.weightOf decoded.toList := by
    rw [weightOf_eq, weightOf_eq decoded.toList]
    -- the names that lead there are those of the path, perhaps with the one of the page behind them
    rcases FileTree.at?_nested hat hshown with hnames | hnames
    · rw [hnames]
    · rw [hnames, List.flatMap_append, Percent.weightOf_append]
      exact Nat.le_add_right _ _
  rw [hdecoded, Percent.decode?_eq_self_of_weight_le hdecoded]
  rw [String.toList_ofList]
  exact hweight

/-- The site has the page for the path under whose names it was put. -/
theorem shows_nested {directory : String} (webPrefix : String) (hne : String.ofList relative ≠ "")
    (htaken : FilePath.isTaken (FilePath.join (FilePath.join directory (String.ofList relative))
      FileTree.indexName) = true) :
    shows ⟨directory, .nested (FilePath.names relative), webPrefix⟩ relative = true := by
  have hcandidate := FilePath.join_ne_empty directory hne
  rw [shows_iff]
  refine ⟨.nested [], FileTree.locate?_nested _, ?_⟩
  unfold FileTree.isShown
  rw [FilePath.isTaken_of_join hcandidate (by decide) htaken, Bool.true_and]
  show (FilePath.isTaken (FilePath.join (FilePath.join directory (String.ofList relative))
    FileTree.indexName) && true) = true
  rw [Bool.and_true]
  exact htaken

/-- On a tree, the site agrees with the path of a request exactly when it has something for the path
as it stands, whenever the path names a file, and then the path names something.  On all trees it
agrees with a path that decoding leaves as it is, and with no other that the file system takes. -/
theorem lookup_agrees_iff {directory webPrefix : String}
    (hasks : Method.asksForPage r.method = true)
    (hplain : FileServer.IsUnconditional r.headers)
    (hrelative : relativePath? webPrefix.toList r.uri.path.toList = some relative) :
    (∀ root, Agrees ⟨directory, root, webPrefix⟩ c r relative
      ↔ ((∃ f, Names ⟨directory, root, webPrefix⟩ relative (.file f)) →
          shows ⟨directory, root, webPrefix⟩ relative = true)
        ∧ (shows ⟨directory, root, webPrefix⟩ relative = true →
          ∃ t, Names ⟨directory, root, webPrefix⟩ relative t))
      ∧ (Percent.decode? (String.ofList relative) = some (String.ofList relative) →
        ∀ root, Agrees ⟨directory, root, webPrefix⟩ c r relative)
      ∧ (FilePath.isTaken (FilePath.join (FilePath.join directory (String.ofList relative))
          FileTree.indexName) = true →
        (∀ root, Agrees ⟨directory, root, webPrefix⟩ c r relative) →
        Percent.decode? (String.ofList relative) = some (String.ofList relative)) := by
  have hiff (root : FileTree) := agrees_iff (s := ⟨directory, root, webPrefix⟩) (c := c) hasks
    hplain hrelative
  refine ⟨hiff, ?_, ?_⟩
  · intro hself root
    have hnames (t : FileTree) := names_iff_of_decode?_eq_self (s := ⟨directory, root, webPrefix⟩)
      (t := t) hself (isDown_of_relativePath? hrelative)
    refine (hiff root).2 ⟨?_, ?_⟩
    · rintro ⟨f, hf⟩
      exact shows_iff.2 ⟨_, (hnames _).1 hf⟩
    · intro hshows
      obtain ⟨t, ht⟩ := shows_iff.1 hshows
      exact ⟨t, (hnames t).2 ht⟩
  · intro htaken hagrees
    -- a tree with only the page under the names of the path tells whether decoding changes them
    by_cases hempty : String.ofList relative = ""
    · rw [hempty]
      decide
    · have hshows := shows_nested webPrefix hempty htaken
      obtain ⟨t, ht⟩ := ((hiff _).1 (hagrees _)).2 hshows
      exact ht.decode?_eq_self

/-- A directory with a text in it, under a name. -/
def shelf (name : String) : Site :=
  ⟨"shelf", .directory 0 [(name, .file ⟨[0x78], 0⟩)], ""⟩

/-- A name that needs no encoding is looked up as it is served, in every tree. -/
theorem lookup_agrees_plain : Method.asksForPage (pageAt "/ab.txt").method = true
    ∧ FileServer.IsUnconditional (pageAt "/ab.txt").headers
    ∧ relativePath? "".toList (pageAt "/ab.txt").uri.path.toList = some "ab.txt".toList
    ∧ ∀ root, Agrees ⟨"shelf", root, ""⟩ atStart (pageAt "/ab.txt") "ab.txt".toList :=
  ⟨by decide, by decide, by decide,
    (lookup_agrees_iff (by decide) (by decide) (by decide)).2.1 (by decide)⟩

/-- A file with a blank in its name is not served under the path that names it: the site looks for a
name with a percent sign, and lets the request through. -/
theorem lookup_disagrees :
    relativePath? (shelf "a b.txt").webPrefix.toList (pageAt "/a%20b.txt").uri.path.toList
        = some "a%20b.txt".toList
      ∧ Names (shelf "a b.txt") "a%20b.txt".toList (.file ⟨[0x78], 0⟩)
      ∧ (Gate.static (shelf "a b.txt")).enter atStart (pageAt "/a%20b.txt")
        = (.forward (pageAt "/a%20b.txt"), [])
      ∧ ¬ Agrees (shelf "a b.txt") atStart (pageAt "/a%20b.txt") "a%20b.txt".toList := by
  have hrelative : relativePath? (shelf "a b.txt").webPrefix.toList
      (pageAt "/a%20b.txt").uri.path.toList = some "a%20b.txt".toList := by
    decide
  have hnames : Names (shelf "a b.txt") "a%20b.txt".toList (.file ⟨[0x78], 0⟩) :=
    ⟨"a b.txt", by decide, by decide, by decide, by rfl, by decide⟩
  have henter := enter_of_not_shows (s := shelf "a b.txt") (c := atStart) hrelative (by decide)
  refine ⟨hrelative, hnames, henter, fun hagrees => ?_⟩
  obtain ⟨response, hanswer, -⟩ := hagrees.file _ hnames
  rw [henter] at hanswer
  exact absurd hanswer (by simp [Passage.answer])

end Site

end AuthGateway
