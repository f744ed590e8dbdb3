import AuthGateway.Gate.Basic
import AuthGateway.Proofs.Http.Uri

/-!
# When the file server breaks off

The file server breaks off in one case: a directory is asked for without a slash at the end, and
with one the target would be too long (`FileServer.answer_eq_panicked_iff`).  What a site asks the
file server for is no longer than the target of the request (`Site.size_serverUri`), so a site only
breaks off on a target that cannot take one more byte (`Gate.siteOutcome?_ne_panicked`).
-/

namespace AuthGateway

namespace FileServer

variable {root : FileTree} {headOnly : Bool} {h : Headers} {uri : Uri} {payload : PanicPayload}

/-- Whether a path leads to a directory. -/
def LeadsToDirectory (root : FileTree) (path : String) : Prop :=
  ∃ names modified entries, target path = .names names
    ∧ root.at? names = some (.directory modified entries)

/-- A target with a slash at the end of its path. -/
def slashed (uri : Uri) : Uri :=
  { uri with path := uri.path ++ "/" }

theorem toSlash_eq_panicked_iff :
    toSlash uri = .panicked payload ↔ ¬ (slashed uri).fits = true ∧ payload = tooLong := by
  unfold toSlash
  dsimp only
  rw [← slashed]
  split_ifs with hfits
  · simp [hfits]
  · simp [hfits, eq_comm]

/-- The file server breaks off on a directory without a slash whose target with one is too long. -/
theorem answer_eq_panicked_iff : answer root headOnly h uri = .panicked payload ↔
    LeadsToDirectory root uri.path ∧ uri.path.toList.getLast? ≠ some '/'
      ∧ ¬ (slashed uri).fits = true ∧ payload = tooLong := by
  constructor
  · intro hanswer
    unfold answer at hanswer
    split at hanswer
    · exact absurd hanswer (by simp)
    · exact absurd hanswer (by simp)
    · rename_i names htarget
      unfold answerNames at hanswer
      split at hanswer
      · exact absurd hanswer (by simp)
      · rename_i modified entries hroot
        split_ifs at hanswer with hslash
        · exact ⟨⟨names, modified, entries, htarget, hroot⟩, hslash,
            toSlash_eq_panicked_iff.1 hanswer⟩
        · split at hanswer
          · exact absurd hanswer (by simp)
          · exact absurd hanswer (by simp)
      · exact absurd hanswer (by simp)
  · rintro ⟨⟨names, modified, entries, htarget, hroot⟩, hslash, hlong⟩
    unfold answer
    rw [htarget]
    show answerNames root headOnly h uri names = .panicked payload
    unfold answerNames
    rw [hroot]
    dsimp only
    rw [if_pos hslash]
    exact toSlash_eq_panicked_iff.2 hlong

end FileServer

/-! ### What a site asks for -/

/-- What a site has something for, it asks the file server for. -/
theorem Site.serverUri?_of_shows {site : Site} {uri : Uri} {relative : List Char}
    (hrelative : relativePath? site.webPrefix.toList uri.path.toList = some relative)
    (hshown : site.shows relative = true) :
    site.serverUri? uri = some (.relative (String.ofList ('/' :: relative)) uri.query) := by
  unfold serverUri?
  rw [hrelative]
  exact if_pos hshown

/-- What a site asks the file server for is the end of a path, with the slash in front of it. -/
theorem Site.sublist_of_relativePath? {webPrefix path relative : List Char}
    (h : relativePath? webPrefix path = some relative) (hne : relative ≠ []) :
    ('/' :: relative).Sublist path := by
  unfold relativePath? at h
  obtain ⟨rest, hrest, hrelative⟩ := Option.bind_eq_some_iff.1 h
  dsimp only at hrelative
  split_ifs at hrelative
  obtain rfl := Option.some.inj hrelative
  obtain ⟨rest', hafter, hhead⟩ := Option.bind_eq_some_iff.1 hrest
  split_ifs at hhead with hroot
  obtain rfl := Option.some.inj hhead
  rw [Text.after?_eq_some_iff.1 hafter]
  cases rest' with
  | nil => exact absurd rfl hne
  | cons c more =>
    obtain rfl : c = '/' := by
      rcases hroot with hnil | hslash
      · exact absurd hnil (by simp)
      · exact Option.some.inj hslash
    -- all slashes in front are taken off, and one is put back
    have hdrop : ('/' :: more).dropWhile (· = '/') = more.dropWhile (· = '/') := rfl
    rw [hdrop]
    exact ((List.dropWhile_sublist _).cons_cons '/').trans (List.sublist_append_right _ _)

/-- What a site asks the file server for is no longer than the target, unless it is the root. -/
theorem Site.size_serverUri {site : Site} {uri u : Uri} (h : site.serverUri? uri = some u)
    (hslash : u.path.toList.getLast? ≠ some '/') :
    u.pathAndQuery.utf8ByteSize ≤ uri.pathAndQuery.utf8ByteSize := by
  unfold serverUri? at h
  split at h
  · exact absurd h (by simp)
  · rename_i relative hrelative
    split_ifs at h
    obtain rfl := Option.some.inj h
    have hne : relative ≠ [] := by
      rintro rfl
      have hroot : (Uri.relative (String.ofList ['/']) uri.query).path.toList = ['/'] :=
        String.toList_ofList
      rw [hroot] at hslash
      exact hslash rfl
    have hpath := String.utf8Len_le_of_sublist (sublist_of_relativePath? hrelative hne)
    rw [← String.utf8ByteSize_ofList, String.utf8Len_toList] at hpath
    rw [Uri.utf8ByteSize_pathAndQuery, Uri.utf8ByteSize_pathAndQuery]
    exact Nat.add_le_add_right hpath _

/-- A site does not break off on a target that can take one more byte. -/
theorem Gate.siteOutcome?_ne_panicked {site : Site} {r : Request}
    (hsize : r.uri.pathAndQuery.utf8ByteSize < Uri.maxBytes) (payload : PanicPayload) :
    siteOutcome? site r ≠ some (.panicked payload) := by
  intro houtcome
  unfold siteOutcome? at houtcome
  split_ifs at houtcome
  obtain ⟨u, hu, hanswer⟩ := Option.map_eq_some_iff.1 houtcome
  obtain ⟨-, hslash, hlong, -⟩ := FileServer.answer_eq_panicked_iff.1 hanswer
  have hshorter := Site.size_serverUri hu hslash
  have hslashed : (FileServer.slashed u).pathAndQuery.utf8ByteSize
      = u.pathAndQuery.utf8ByteSize + 1 := by
    have hone : "/".utf8ByteSize = 1 := rfl
    rw [Uri.utf8ByteSize_pathAndQuery, Uri.utf8ByteSize_pathAndQuery]
    unfold FileServer.slashed
    dsimp only
    rw [String.utf8ByteSize_append, hone]
    omega
  refine hlong (decide_eq_true ?_)
  omega

end AuthGateway
