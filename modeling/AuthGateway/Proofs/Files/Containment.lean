import AuthGateway.Gate.Basic
import AuthGateway.Proofs.Files.Disk

/-!
# Nothing outside the directory is shown

A site is about the paths that go on from the web prefix with a slash, or not at all, and then only
lead down (`Site.relativePath?_eq_some_iff`).  So the two paths that the file system is asked about
stay inside the directory.  The file server decodes the path only then; it takes none but steps down
as well (`FileServer.isName_of_target`), so that what it sends comes from a path inside the
directory (`Disk.site_contained`).
-/

namespace AuthGateway

/-! ### What a site is about -/

theorem Site.rest?_eq_some_iff {webPrefix path rest : List Char} :
    rest? webPrefix path = some rest
      ↔ path = webPrefix ++ rest ∧ (rest = [] ∨ rest.head? = some '/') := by
  unfold rest?
  rw [Option.bind_eq_some_iff]
  constructor
  · rintro ⟨rest', hafter, hends⟩
    split_ifs at hends with hslash
    obtain rfl := Option.some.inj hends
    exact ⟨Text.after?_eq_some_iff.1 hafter, hslash⟩
  · rintro ⟨hpath, hslash⟩
    exact ⟨rest, Text.after?_eq_some_iff.2 hpath, if_pos hslash⟩

theorem Site.escapes_eq_false_iff {relative : List Char} :
    escapes relative = false ↔ ∀ step ∈ FilePath.steps relative, step.isDown = true := by
  unfold escapes
  rw [List.any_eq_false]
  simp

/-- What is left of a path has no slash in front of it. -/
theorem Site.head?_dropWhile (rest : List Char) :
    (rest.dropWhile (· = '/')).head? ≠ some '/' := by
  intro hhead
  have hnot := List.head?_dropWhile_not (fun c : Char => decide (c = '/')) rest
  rw [hhead] at hnot
  exact absurd hnot (by decide)

/-- A slash in front of what has none is all that is left out. -/
theorem Site.dropWhile_slash_cons {relative : List Char} (hslash : relative.head? ≠ some '/') :
    ('/' :: relative).dropWhile (· = '/') = relative := by
  rw [List.dropWhile_cons_of_pos (by decide)]
  cases relative with
  | nil => rfl
  | cons c relative =>
    refine List.dropWhile_cons_of_neg ?_
    rw [decide_eq_true_eq]
    rintro rfl
    exact hslash rfl

/-- A site is about a path that goes on from the web prefix where a segment ends, and then only
leads down. -/
theorem Site.relativePath?_eq_some_iff {webPrefix path relative : List Char} :
    relativePath? webPrefix path = some relative
      ↔ ∃ rest, path = webPrefix ++ rest ∧ (rest = [] ∨ rest.head? = some '/')
        ∧ rest.dropWhile (· = '/') = relative ∧ ['.', '.'] ∉ relative.splitOn '/'
        ∧ (relative.splitOn '/').head? ≠ some ['.'] := by
  unfold relativePath?
  rw [Option.bind_eq_some_iff]
  dsimp only
  constructor
  · rintro ⟨rest, hrest, hrelative⟩
    obtain ⟨hpath, hslash⟩ := rest?_eq_some_iff.1 hrest
    split_ifs at hrelative with hescapes
    obtain rfl := Option.some.inj hrelative
    have hdown := escapes_eq_false_iff.1 (eq_false_of_ne_true hescapes)
    obtain ⟨-, hdot, hup⟩ := FilePath.all_isDown_iff.1 hdown
    exact ⟨rest, hpath, hslash, rfl, hup, hdot⟩
  · rintro ⟨rest, hpath, hslash, rfl, hup, hdot⟩
    have hdown := FilePath.all_isDown_iff.2 ⟨head?_dropWhile rest, hdot, hup⟩
    refine ⟨rest, rest?_eq_some_iff.2 ⟨hpath, hslash⟩, if_neg ?_⟩
    rw [escapes_eq_false_iff.2 hdown]
    decide

/-- What a site is asked about only leads down. -/
theorem Site.isDown_of_relativePath? {webPrefix path relative : List Char}
    (h : relativePath? webPrefix path = some relative) :
    ∀ step ∈ FilePath.steps relative, step.isDown = true := by
  obtain ⟨rest, -, -, rfl, hup, hdot⟩ := relativePath?_eq_some_iff.1 h
  exact FilePath.all_isDown_iff.2 ⟨head?_dropWhile rest, hdot, hup⟩

/-! ### What the file server sends -/

namespace FileServer

variable {root : FileTree} {headOnly : Bool} {h : Headers} {uri : Uri} {names : List String}

/-- The path that is opened for some names in a directory. -/
def opened (directory : String) (names : List String) : String :=
  names.foldl FilePath.join (FilePath.join "." directory)

/-- What may be sent, when files of some kind are found: nothing, a message, or a file or a part of
one. -/
inductive IsBody (found : File → Prop) : Bytes → Prop where
  | empty : IsBody found []
  | message : IsBody found (Utf8.encode severalParts)
  | whole {f : File} (h : found f) : IsBody found f.content
  | part {f : File} (h : found f) (range : ByteRange) : IsBody found (range.cut f.content)

theorem IsBody.mono {found found' : File → Prop} {body : Bytes} (h : IsBody found body)
    (hfound : ∀ f, found f → found' f) : IsBody found' body := by
  cases h with
  | empty => exact .empty
  | message => exact .message
  | whole h => exact .whole (hfound _ h)
  | part h range => exact .part (hfound _ h) range

/-- The names of some steps are those that the steps lead down to. -/
theorem down_mem_of_names? {l : List PathStep} (hnames : names? l = some names) {name : String}
    (hname : name ∈ names) : .down name.toList ∈ l := by
  induction l generalizing names with
  | nil =>
    obtain rfl := Option.some.inj hnames
    exact absurd hname List.not_mem_nil
  | cons step l ih =>
    cases step with
    | top | up => exact absurd hnames (by simp [names?])
    | here => exact List.mem_cons_of_mem _ (ih hnames hname)
    | down first =>
      rw [names?] at hnames
      obtain ⟨rest, hrest, rfl⟩ := Option.map_eq_some_iff.1 hnames
      rcases List.mem_cons.1 hname with rfl | hname
      · rw [String.toList_ofList]
        exact List.mem_cons_self
      · exact List.mem_cons_of_mem _ (ih hrest hname)

/-- The names that a path stands for can be names of something in a directory. -/
theorem isName_of_target {path : String} (htarget : target path = .names names) :
    ∀ name ∈ names, FilePath.IsName name.toList := by
  intro name hname
  unfold target at htarget
  split at htarget
  · exact absurd htarget (by simp)
  · split at htarget
    · exact absurd htarget (by simp)
    · rename_i names' hnames'
      split_ifs at htarget
      obtain rfl := Target.names.inj htarget
      exact FilePath.isName_of_mem_steps (down_mem_of_names? hnames' hname)

variable {found : File → Prop} {f : File}

theorem isBody_ofFile (name : String) (hf : found f) :
    IsBody found (ofFile headOnly h name f).body := by
  unfold ofFile
  dsimp only
  split
  · cases headOnly with
    | true => exact .empty
    | false => exact .whole hf
  · split
    · exact .empty
    · exact .empty
    · rename_i range _
      cases headOnly with
      | true => exact .empty
      | false => exact .part hf range
    · exact .message

theorem isBody_answerFile (hf : found f) : IsBody found (answerFile headOnly h names f).body := by
  unfold answerFile
  cases hconditional : conditional? h f with
  | none => exact isBody_ofFile _ hf
  | some response =>
    rw [Option.getD_some]
    unfold conditional? at hconditional
    split_ifs at hconditional
    · rw [← Option.some.inj hconditional]
      exact .empty
    · rw [← Option.some.inj hconditional]
      exact .empty

/-- A file without content is as good as none. -/
theorem IsBody.of_content_eq_nil {body : Bytes} (hbody : IsBody (· = f) body)
    (hcontent : f.content = []) : IsBody found body := by
  cases hbody with
  | empty => exact .empty
  | message => exact .message
  | whole h =>
    rw [h, hcontent]
    exact .empty
  | part h range =>
    rw [h, hcontent, ByteRange.cut, List.drop_nil, List.take_nil]
    exact .empty

/-- Whether a tree has a file, under names that can be names of something in a directory. -/
def HasFile (root : FileTree) (f : File) : Prop :=
  ∃ names, (∀ name ∈ names, FilePath.IsName name.toList) ∧ root.at? names = some (.file f)

/-- What is sent is a file of the tree, if it is a file at all. -/
theorem isBody_answerNames {response : Response}
    (hnames : ∀ name ∈ names, FilePath.IsName name.toList)
    (hanswer : answerNames root headOnly h uri names = .answered response) :
    IsBody (HasFile root) response.body := by
  unfold answerNames at hanswer
  split at hanswer
  · rename_i f hfile
    rw [← Outcome.answered.inj hanswer]
    exact isBody_answerFile ⟨names, hnames, hfile⟩
  · rename_i modified entries hdirectory
    split_ifs at hanswer
    · unfold toSlash at hanswer
      dsimp only at hanswer
      split_ifs at hanswer
      rw [← Outcome.answered.inj hanswer]
      exact .empty
    · split at hanswer
      · rename_i page hpage
        rw [← Outcome.answered.inj hanswer]
        cases page with
        | file f =>
          refine isBody_answerFile ⟨names ++ [FileTree.indexName], ?_, ?_⟩
          · intro name hname
            rcases List.mem_append.1 hname with hname | hname
            · exact hnames name hname
            · rw [List.mem_singleton.1 hname]
              decide
          · rw [FileTree.at?_append, hdirectory, Option.bind_some, FileTree.at?_singleton]
            exact hpage
        | directory modified entries =>
          have hbody : IsBody (· = (FileTree.directory modified entries).asFile)
              (answerFile headOnly h (names ++ [FileTree.indexName]) _).body :=
            isBody_answerFile rfl
          exact hbody.of_content_eq_nil rfl
      · rw [← Outcome.answered.inj hanswer]
        exact .empty
  · rw [← Outcome.answered.inj hanswer]
    exact .empty

theorem isBody_answer {response : Response}
    (hanswer : answer root headOnly h uri = .answered response) :
    IsBody (HasFile root) response.body := by
  unfold answer at hanswer
  split at hanswer
  · rw [← Outcome.answered.inj hanswer]
    exact .empty
  · rw [← Outcome.answered.inj hanswer]
    exact .empty
  · rename_i names htarget
    exact isBody_answerNames (isName_of_target htarget) hanswer

end FileServer

/-! ### The site on a disk -/

/-- Whether there is a file at a path inside a directory. -/
def Disk.HasInside (disk : Disk) (directory : String) (f : File) : Prop :=
  ∃ path, FilePath.IsInside directory path ∧ disk.at? path = some (.file f)

/-- What is opened for some names stays inside the directory. -/
theorem FileServer.isInside_opened {directory : String} {names : List String}
    (hnames : ∀ name ∈ names, FilePath.IsName name.toList) :
    FilePath.IsInside directory (opened directory names) := by
  obtain ⟨more, hmore⟩ := FilePath.isInside_foldl_join (FilePath.join "." directory) hnames
  rw [FilePath.normal_steps_join_dot] at hmore
  exact ⟨more, hmore⟩

/-- The files of a site stand at paths inside its directory. -/
theorem Disk.hasInside_of_hasFile {disk : Disk} {directory webPrefix : String} {f : File}
    (h : FileServer.HasFile (disk.site directory webPrefix).root f) :
    disk.HasInside directory f := by
  obtain ⟨names, hnames, hat⟩ := h
  refine ⟨FileServer.opened directory names, FileServer.isInside_opened hnames, ?_⟩
  rw [FileServer.opened, at?_foldl_join hnames, at?_join_dot]
  rw [site] at hat
  cases hdirectory : disk.at? directory with
  | none =>
    -- an empty tree has no file
    rw [hdirectory, Option.getD_none] at hat
    cases names with
    | nil => exact absurd hat (by simp [FileTree.at?, FileTree.empty])
    | cons name names => exact absurd hat (by simp [FileTree.at?, FileTree.empty, FileTree.child?])
  | some t =>
    rw [hdirectory, Option.getD_some] at hat
    exact hat

/-- A site over a directory is about exactly the paths that go on from the web prefix where a
segment ends, and then have no two dots for a segment and no dot for the first one.  Of these it
asks the file system about two paths, which stay inside the directory; and what it answers to any
request is of a file at a path inside the directory, or of none. -/
theorem Disk.site_contained (disk : Disk) (directory webPrefix : String) :
    (∀ path relative, Site.relativePath? webPrefix.toList path = some relative
      ↔ ∃ rest, path = webPrefix.toList ++ rest ∧ (rest = [] ∨ rest.head? = some '/')
        ∧ rest.dropWhile (· = '/') = relative ∧ ['.', '.'] ∉ relative.splitOn '/'
        ∧ (relative.splitOn '/').head? ≠ some ['.'])
      ∧ (∀ path relative, Site.relativePath? webPrefix.toList path = some relative →
        relative.head? ≠ some '/'
          ∧ ∃ candidate, candidate = FilePath.join directory (String.ofList relative)
            ∧ (disk.site directory webPrefix).shows relative = disk.showsAt candidate
            ∧ FilePath.IsInside directory candidate
            ∧ FilePath.IsInside directory (FilePath.join candidate FileTree.indexName))
      ∧ ∀ c r response events,
        (Gate.static (disk.site directory webPrefix)).enter c r = (.answer response, events) →
          FileServer.IsBody (disk.HasInside directory) response.body := by
  refine ⟨fun path relative => Site.relativePath?_eq_some_iff, ?_, ?_⟩
  · intro path relative hrelative
    have hdown := Site.isDown_of_relativePath? hrelative
    obtain ⟨hslash, -, hup⟩ := FilePath.all_isDown_iff.1 hdown
    have hcandidate : FilePath.IsInside directory
        (FilePath.join directory (String.ofList relative)) := by
      apply FilePath.isInside_join
      rw [String.toList_ofList]
      exact hdown
    refine ⟨hslash, _, rfl, shows_site hslash hup, hcandidate, ?_⟩
    -- the page stands in the candidate, by one step down
    exact hcandidate.trans (FilePath.isInside_join (by decide))
  · intro c r response events henter
    have houtcome : Gate.siteOutcome? (disk.site directory webPrefix) r
        = some (.answered response) := by
      have hpassage := (Prod.mk.inj henter).1
      unfold Gate.enterSite at hpassage
      split at hpassage
      · rename_i outcome houtcome
        rw [houtcome]
        exact congrArg some (Passage.settled.inj hpassage)
      · exact absurd hpassage (by simp [Passage.answer])
    unfold Gate.siteOutcome? at houtcome
    split_ifs at houtcome
    obtain ⟨uri, -, hanswer⟩ := Option.map_eq_some_iff.1 houtcome
    exact (FileServer.isBody_answer hanswer).mono fun f => hasInside_of_hasFile

/-- A request for a page, by its path. -/
def Site.pageAt (path : String) : Request :=
  ⟨"GET", .relative path none, [], [], none⟩

/-- What surrounds the first request. -/
def Site.atStart : Conditions :=
  ⟨0, ⟨0, 0⟩, .empty []⟩

/-- A disk with a page in one directory, and a text beside it. -/
def Disk.sample : Disk where
  top := .directory 0 [("srv", .directory 0 [
    ("www", .directory 0 [("a.txt", .file ⟨[0x78], 0⟩)]), ("key", .file ⟨[0x6B], 0⟩)])]
  here := []

/-- The page is found below a web prefix, and the site is not about the path of the text. -/
theorem Disk.site_contained_sample :
    ∃ response, (Gate.static (sample.site "srv/www" "/edge")).enter Site.atStart
        (Site.pageAt "/edge/a.txt") = (.answer response, [])
      ∧ response.body = [0x78] ∧ FileServer.IsBody (sample.HasInside "srv/www") response.body
      ∧ FilePath.IsInside "srv/www" "srv/www/a.txt"
      ∧ Site.relativePath? "/edge".toList "/edge/../key".toList = none := by
  have henter : ∃ response, (Gate.static (sample.site "srv/www" "/edge")).enter Site.atStart
      (Site.pageAt "/edge/a.txt") = (.answer response, []) ∧ response.body = [0x78] :=
    ⟨_, rfl, rfl⟩
  obtain ⟨response, henter, hbody⟩ := henter
  obtain ⟨-, hprobed, hanswered⟩ := site_contained sample "srv/www" "/edge"
  obtain ⟨-, candidate, rfl, -, hinside, -⟩ := hprobed "/edge/a.txt".toList "a.txt".toList
    (by decide)
  exact ⟨response, henter, hbody, hanswered _ _ _ _ henter, hinside, by decide⟩

end AuthGateway
