import AuthGateway.Proofs.Files.Lookup
import AuthGateway.Proofs.Http.Uri

/-!
# Where a directory sends its visitors

A directory that is asked for without a slash at the end sends the client on.  The file server knows
nothing of the web prefix, as it is asked for a path below the directory (`Site.asked`): the place
that it names is the path of the request with a slash behind it only where nothing stands in front
of that path (`Site.placeOf_eq_iff`).  There the page is found again, provided that the path leads
to a directory as it stands too (`Site.shows_append_slash`).
-/

namespace AuthGateway.Site

variable {s : Site} {c : Conditions} {r : Request} {relative : List Char} {query : Option String}
  {headOnly : Bool} {h : Headers} {modified : Int} {entries : List (String × FileTree)}
  {page : File} {response : Response}

/-! ### What the file server is asked for -/

/-- What the file server is asked for in the place of a path. -/
def asked (relative : List Char) (query : Option String) : Uri :=
  .relative (String.ofList ('/' :: relative)) query

/-- The place that an answer names: what is left of the path, with a slash on both sides of it, and
the query. -/
def placeOf (relative : List Char) (query : Option String) : String :=
  (asked (relative ++ ['/']) query).text

theorem ofList_ne_empty (hne : relative ≠ []) : String.ofList relative ≠ "" := by
  rw [Ne, ← String.ofList_nil, String.ofList_inj]
  exact hne

theorem slashed_asked (relative : List Char) (query : Option String) :
    FileServer.slashed (asked relative query) = asked (relative ++ ['/']) query := by
  unfold FileServer.slashed asked Uri.relative
  dsimp only
  rw [← List.cons_append, String.ofList_append]

theorem toList_path_asked (relative : List Char) (query : Option String) :
    (asked relative query).path.toList = '/' :: relative :=
  String.toList_ofList

theorem getLast?_path_asked (hne : relative ≠ []) (query : Option String) :
    (asked relative query).path.toList.getLast? = relative.getLast? := by
  rw [toList_path_asked, ← List.singleton_append, List.getLast?_append_of_ne_nil _ hne]

/-! ### The two answers -/

/-- For a directory without a slash, the answer sends the client on. -/
theorem Names.answer_asked (hnames : s.Names relative (.directory modified entries))
    (hslash : relative.head? ≠ some '/') (hne : relative ≠ [])
    (hlast : relative.getLast? ≠ some '/') :
    FileServer.answer s.root headOnly h (asked relative query)
      = FileServer.toSlash (asked relative query) := by
  obtain ⟨names, htarget, hat⟩ := hnames.exists_target hslash
  have hpath := getLast?_path_asked hne query
  unfold FileServer.answer
  rw [show (asked relative query).path = String.ofList ('/' :: relative) from rfl, htarget]
  dsimp only
  unfold FileServer.answerNames
  rw [hat]
  dsimp only
  rw [hpath, if_pos hlast]

/-- For a directory with a slash at the end, the answer is its page. -/
theorem answer_page (headOnly : Bool) (query : Option String) {names : List String}
    {path : List Char}
    (htarget : FileServer.target (String.ofList ('/' :: path)) = .names names)
    (hat : s.root.at? names = some (.directory modified entries))
    (hpage : entries.lookup FileTree.indexName = some (.file page))
    (hlast : ('/' :: path).getLast? = some '/') (hplain : FileServer.IsUnconditional h) :
    FileServer.answer s.root headOnly h (asked path query) = .answered
      (FileServer.about FileTree.indexName 200 [] (if headOnly then [] else page.content)) := by
  unfold FileServer.answer
  rw [show (asked path query).path = String.ofList ('/' :: path) from rfl, htarget]
  dsimp only
  unfold FileServer.answerNames
  rw [hat, toList_path_asked, hlast]
  dsimp only
  rw [if_neg (not_not.2 rfl), hpage]
  dsimp only
  rw [FileServer.answerFile_of_isUnconditional hplain, List.getLast?_concat]
  rfl

/-- A slash behind the path of a directory leads to the directory as well. -/
theorem Names.exists_target_slash (hnames : s.Names relative (.directory modified entries))
    (hslash : relative.head? ≠ some '/') (hne : relative ≠ []) : ∃ names,
    FileServer.target (String.ofList ('/' :: (relative ++ ['/']))) = .names names
      ∧ s.root.at? names = some (.directory modified entries) := by
  obtain ⟨decoded, hdecoded, hhead, hup, hlocate, hshown⟩ := hnames
  have hdecodedNe := Percent.ne_empty_of_decode? hdecoded (ofList_ne_empty hne)
  have hdecodedSlash :
      Percent.decode? (String.ofList (relative ++ ['/'])) = some (decoded ++ "/") := by
    rw [String.ofList_append]
    exact Percent.decode?_append_slash hdecoded
  unfold FileTree.isShown at hshown
  rw [Bool.and_eq_true] at hshown
  have hnul := FilePath.nul_not_mem_of_isTaken hshown.1
  have htext : (decoded ++ "/").toList = decoded.toList ++ ['/'] := String.toList_append
  refine ⟨FilePath.names (decoded ++ "/").toList, FileServer.target_slash ?_ hdecodedSlash ?_ ?_ ?_,
    ?_⟩
  · rw [List.head?_append_of_ne_nil _ hne]
    exact hslash
  · rw [htext, List.head?_append_of_ne_nil]
    · exact hhead
    · rw [Ne, String.toList_eq_nil_iff]
      exact hdecodedNe
  · rw [htext, List.splitOn_append_cons_self, List.mem_append, not_or]
    exact ⟨hup, by decide⟩
  · rw [htext, List.mem_append, not_or]
    exact ⟨hnul, by decide⟩
  · rw [htext, FilePath.names_append_slash]
    exact FileTree.at?_of_locate? hlocate

/-- An answer that sends the client on, to a request for a directory with a page: the path has no
slash at the end, and the place that the answer names is the path with one. -/
theorem Names.redirect (hnames : s.Names relative (.directory modified entries))
    (hpage : entries.lookup FileTree.indexName = some (.file page))
    (hslash : relative.head? ≠ some '/') (hplain : FileServer.IsUnconditional h)
    (hanswer : FileServer.answer s.root headOnly h (asked relative query) = .answered response)
    (hstatus : response.status = 307) :
    relative ≠ [] ∧ relative.getLast? ≠ some '/'
      ∧ (asked (relative ++ ['/']) query).fits = true
      ∧ response = (Response.empty 307).add "location" (placeOf relative query) := by
  by_cases hlast : ('/' :: relative).getLast? = some '/'
  · -- with a slash at the end, the page would be sent
    obtain ⟨names, htarget, hat⟩ := hnames.exists_target hslash
    rw [answer_page headOnly query htarget hat hpage hlast hplain] at hanswer
    rw [← Outcome.answered.inj hanswer] at hstatus
    exact absurd hstatus (by simp [FileServer.about])
  · have hne : relative ≠ [] := by
      rintro rfl
      exact hlast rfl
    have hlast' : relative.getLast? ≠ some '/' := by
      rw [← getLast?_path_asked hne query, toList_path_asked]
      exact hlast
    rw [hnames.answer_asked hslash hne hlast'] at hanswer
    unfold FileServer.toSlash at hanswer
    dsimp only at hanswer
    rw [← FileServer.slashed, slashed_asked] at hanswer
    split_ifs at hanswer with hfits
    exact ⟨hne, hlast', hfits, (Outcome.answered.inj hanswer).symm⟩

/-- A gate that sends the client on has something for the path, and names the path with a slash. -/
theorem Names.redirect_of_enter (hnames : s.Names relative (.directory modified entries))
    (hpage : entries.lookup FileTree.indexName = some (.file page))
    (hmethod : r.method = "GET") (hplain : FileServer.IsUnconditional r.headers)
    (hrelative : relativePath? s.webPrefix.toList r.uri.path.toList = some relative)
    (henter : (Gate.static s).enter c r = (.answer response, []))
    (hstatus : response.status = 307) :
    s.shows relative = true ∧ relative ≠ [] ∧ relative.getLast? ≠ some '/'
      ∧ (asked (relative ++ ['/']) r.uri.query).fits = true
      ∧ response = (Response.empty 307).add "location" (placeOf relative r.uri.query) := by
  have hslash := (FilePath.all_isDown_iff.1 (isDown_of_relativePath? hrelative)).1
  have hasks : Method.asksForPage r.method = true := by
    rw [hmethod]
    rfl
  cases hshows : s.shows relative with
  | false =>
    rw [enter_of_not_shows hrelative hshows] at henter
    exact absurd henter (by simp [Passage.answer])
  | true =>
    rw [enter_of_shows hasks hrelative hshows] at henter
    have hanswer := Passage.settled.inj (Prod.mk.inj henter).1
    exact ⟨rfl, hnames.redirect hpage hslash hplain hanswer hstatus⟩

/-! ### Looking up a path with a slash -/

/-- With a slash at its end, a path leads to directories only. -/
theorem locate?_append_slash (s : Site) (relative : List Char) : s.locate? (relative ++ ['/'])
    = (s.locate? relative).bind fun t => if t.isDirectory then some t else none := by
  rw [locate?, List.splitOn_append_cons_self, List.map_append, FileTree.locate?_append, locate?]
  rfl

/-- A directory that is shown is shown with a slash at the end of its path. -/
theorem isShown_append_slash {t : FileTree} {path : String} (hdirectory : t.isDirectory = true)
    (hne : path ≠ "") (hlast : path.toList.getLast? ≠ some '/') (hshown : t.isShown path = true) :
    t.isShown (path ++ "/") = true := by
  cases t with
  | file f => exact absurd hdirectory (by simp [FileTree.isDirectory])
  | directory modified entries =>
    unfold FileTree.isShown at hshown ⊢
    dsimp only at hshown ⊢
    simp only [Bool.and_eq_true] at hshown ⊢
    obtain ⟨-, htaken, hpage⟩ := hshown
    rw [← FilePath.join_slash hne hlast (by decide)] at htaken
    have hslash : path ++ "/" ≠ "" := by
      rw [Ne, ← String.toList_eq_nil_iff, String.toList_append]
      exact List.append_ne_nil_of_right_ne_nil _ (by decide)
    exact ⟨FilePath.isTaken_of_join hslash (by decide) htaken, htaken, hpage⟩

/-- A path that the site has something for can be asked for with a slash at its end when it leads to
a directory. -/
theorem shows_append_slash (hne : relative ≠ []) (hlast : relative.getLast? ≠ some '/')
    (hshows : s.shows relative = true) : s.shows (relative ++ ['/']) = true
      ↔ ∃ t, s.locate? relative = some t ∧ t.isDirectory = true := by
  have hrelative := ofList_ne_empty hne
  rw [shows_iff]
  constructor
  · rintro ⟨t, hlocate, -⟩
    rw [locate?_append_slash] at hlocate
    obtain ⟨u, hu, hdirectory⟩ := Option.bind_eq_some_iff.1 hlocate
    split_ifs at hdirectory with hd
    exact ⟨u, hu, hd⟩
  · rintro ⟨t, hlocate, hdirectory⟩
    obtain ⟨u, hu, hshown⟩ := shows_iff.1 hshows
    rw [hlocate] at hu
    obtain rfl := Option.some.inj hu
    refine ⟨t, ?_, ?_⟩
    · rw [locate?_append_slash, hlocate, Option.bind_some, if_pos hdirectory]
    · have hpath : (String.ofList relative).toList.getLast? ≠ some '/' := by
        rw [String.toList_ofList]
        exact hlast
      rw [String.ofList_append, FilePath.join_append_slash hrelative]
      refine isShown_append_slash hdirectory (FilePath.join_ne_empty _ hrelative) ?_ hshown
      rw [FilePath.getLast?_join hrelative]
      exact hpath

/-! ### The place that is named -/

/-- The place that an answer should name, for a request without a slash at the end: its own path
with a slash behind it, and its query. -/
def ownPlace (uri : Uri) : String :=
  (FileServer.slashed uri).pathAndQuery

theorem pathAndQuery_inj {u v : Uri} (hquery : u.query = v.query) :
    u.pathAndQuery = v.pathAndQuery ↔ u.path = v.path := by
  unfold Uri.pathAndQuery
  rw [hquery]
  cases v.query with
  | none => exact Iff.rfl
  | some q => simp only [String.append_left_inj]

theorem text_asked (relative : List Char) (query : Option String) :
    (asked relative query).text = (asked relative query).pathAndQuery :=
  String.empty_append

/-- A path that is a slash and what is left of it has no web prefix. -/
theorem webPrefix_eq_nil {webPrefix : List Char}
    (hrelative : relativePath? webPrefix ('/' :: relative) = some relative) (hne : relative ≠ []) :
    webPrefix = [] := by
  obtain ⟨rest, hpath, hslash, hdrop, -⟩ := relativePath?_eq_some_iff.1 hrelative
  cases rest with
  | nil => exact absurd hdrop.symm hne
  | cons d rest =>
    obtain rfl : d = '/' := by
      rcases hslash with hnil | hslash
      · exact absurd hnil (by simp)
      · exact Option.some.inj hslash
    -- what is left is no longer than what stands behind the first slash
    have hshort : relative.length ≤ rest.length := by
      rw [← hdrop, List.dropWhile_cons_of_pos (by decide)]
      exact (List.dropWhile_sublist _).length_le
    have hlength := congrArg List.length hpath
    rw [List.length_append, List.length_cons, List.length_cons] at hlength
    exact List.length_eq_zero_iff.1 (by omega)

/-- The place that is named is the path of the request with a slash behind it, exactly when there is
nothing in front of what is left of the path but one slash. -/
theorem placeOf_eq_iff {uri : Uri}
    (hrelative : relativePath? s.webPrefix.toList uri.path.toList = some relative)
    (hne : relative ≠ []) : placeOf relative uri.query = ownPlace uri
      ↔ s.webPrefix = "" ∧ uri.path = String.ofList ('/' :: relative) := by
  have hpath : (asked (relative ++ ['/']) uri.query).path = (FileServer.slashed uri).path
      ↔ uri.path = String.ofList ('/' :: relative) := by
    rw [← slashed_asked]
    show String.ofList ('/' :: relative) ++ "/" = uri.path ++ "/" ↔ _
    rw [String.append_left_inj, eq_comm]
  rw [placeOf, text_asked, ownPlace, pathAndQuery_inj (by rfl), hpath]
  constructor
  · intro heq
    rw [heq, String.toList_ofList] at hrelative
    exact ⟨String.toList_eq_nil_iff.1 (webPrefix_eq_nil hrelative hne), heq⟩
  · exact fun h => h.2

/-- The place that is named can be asked for. -/
theorem ofText?_placeOf {uri : Uri} (huri : uri.IsPlain)
    (hrelative : relativePath? s.webPrefix.toList uri.path.toList = some relative)
    (hne : relative ≠ []) (hfits : (asked (relative ++ ['/']) uri.query).fits = true) :
    Uri.ofText? (placeOf relative uri.query) = some (asked (relative ++ ['/']) uri.query) := by
  rw [placeOf, text_asked]
  refine Uri.ofText?_relative ?_ huri.query hfits
  intro d hd
  rw [← List.cons_append, List.mem_append, List.mem_singleton] at hd
  rcases hd with hd | rfl
  · exact huri.path d ((sublist_of_relativePath? hrelative hne).subset hd)
  · decide

/-! ### Following -/

/-- Whether a site answers a request with a file. -/
def Sends (s : Site) (c : Conditions) (r : Request) (f : File) : Prop :=
  ∃ response, (Gate.static s).enter c r = (.answer response, []) ∧ response.status = 200
    ∧ response.body = f.content

/-- Whether a path leads to a directory as it stands, with nothing in front of it but a slash. -/
structure IsPlainDirectory (s : Site) (uri : Uri) (relative : List Char) : Prop where
  webPrefix : s.webPrefix = ""
  path : uri.path = String.ofList ('/' :: relative)
  directory : ∃ t, s.locate? relative = some t ∧ t.isDirectory = true

/-- Without a web prefix, the place that is named is in the scope of the site. -/
theorem relativePath?_asked (query : Option String) (hweb : s.webPrefix = "")
    (hdown : ∀ step ∈ FilePath.steps relative, step.isDown = true) (hne : relative ≠ []) :
    relativePath? s.webPrefix.toList (asked (relative ++ ['/']) query).path.toList
      = some (relative ++ ['/']) := by
  obtain ⟨hslash, hdot, hup⟩ := FilePath.all_isDown_iff.1 hdown
  rw [toList_path_asked, hweb, relativePath?_eq_some_iff]
  refine ⟨'/' :: (relative ++ ['/']), rfl, Or.inr rfl, ?_, ?_, ?_⟩
  · apply dropWhile_slash_cons
    rw [List.head?_append_of_ne_nil _ hne]
    exact hslash
  · rw [List.splitOn_append_cons_self, List.mem_append, not_or]
    exact ⟨hup, by decide⟩
  · rw [List.splitOn_append_cons_self,
      List.head?_append_of_ne_nil _ (List.splitOn_ne_nil '/' relative)]
    exact hdot

/-- Without a web prefix, the page is sent to who follows, exactly when the path leads to a
directory as it stands. -/
theorem Names.follow_iff (hnames : s.Names relative (.directory modified entries))
    (hpage : entries.lookup FileTree.indexName = some (.file page))
    (hdown : ∀ step ∈ FilePath.steps relative, step.isDown = true) (hne : relative ≠ [])
    (hlast : relative.getLast? ≠ some '/') (hshows : s.shows relative = true)
    (hweb : s.webPrefix = "") (hmethod : r.method = "GET")
    (huri : r.uri = asked (relative ++ ['/']) query)
    (hplain : FileServer.IsUnconditional r.headers) :
    s.Sends c r page ↔ ∃ t, s.locate? relative = some t ∧ t.isDirectory = true := by
  obtain ⟨hslash, -, -⟩ := FilePath.all_isDown_iff.1 hdown
  have hasks : Method.asksForPage r.method = true := by
    rw [hmethod]
    rfl
  have hrelative := relativePath?_asked query hweb hdown hne
  rw [← huri] at hrelative
  rw [← shows_append_slash hne hlast hshows]
  cases hfound : s.shows (relative ++ ['/']) with
  | false =>
    constructor
    · rintro ⟨response, hanswer, -⟩
      rw [enter_of_not_shows hrelative hfound] at hanswer
      exact absurd hanswer (by simp [Passage.answer])
    · intro h
      exact absurd h (by decide)
  | true =>
    have henter := enter_of_shows (c := c) hasks hrelative hfound
    obtain ⟨names, htarget, hat⟩ := hnames.exists_target_slash hslash hne
    have hquery : r.uri.query = query := by
      rw [huri]
      rfl
    have hend : ('/' :: (relative ++ ['/'])).getLast? = some '/' := by
      rw [← List.cons_append]
      exact List.getLast?_concat
    have hget : (r.method == "HEAD") = false := by
      rw [hmethod]
      decide
    have hanswer := answer_page (r.method == "HEAD") query htarget hat hpage hend hplain
    rw [hquery, ← asked, hanswer, hget] at henter
    exact ⟨fun _ => rfl, fun _ => ⟨_, henter, rfl, rfl⟩⟩

end AuthGateway.Site
