import AuthGateway.Http.Uri
import AuthGateway.Proofs.Text.Leading
import Mathlib.Data.List.TakeWhile
import Mathlib.Data.String.Basic

/-!
# Targets that are paths

A text that begins with a slash is read as a path and a query (`Uri.ofText?_slash`).  Where all its
characters need no encoding it is read as it stands (`Uri.ofText?_path`, `Uri.ofText?_query`).  All
characters of what is read as a target are of this kind (`Uri.isPlain_of_ofText?`).
-/

namespace AuthGateway.Uri

/-- The bytes of a path and a query: those of each, and the question mark between them. -/
theorem utf8ByteSize_pathAndQuery (u : Uri) : u.pathAndQuery.utf8ByteSize
    = u.path.utf8ByteSize + (u.query.map fun q => 1 + q.utf8ByteSize).getD 0 := by
  unfold pathAndQuery
  cases u.query with
  | none => rfl
  | some q =>
    have hmark : "?".utf8ByteSize = 1 := rfl
    show (u.path ++ "?" ++ q).utf8ByteSize = u.path.utf8ByteSize + (1 + q.utf8ByteSize)
    rw [String.utf8ByteSize_append, String.utf8ByteSize_append, hmark, Nat.add_assoc]

/-- What begins with a slash is read as a path and a query, if it is short enough. -/
theorem ofText?_slash {rest : List Char} (hsize : String.utf8Len ('/' :: rest) ≤ maxBytes) :
    ofText? (String.ofList ('/' :: rest)) = ofPathAndQuery? .absent ('/' :: rest) := by
  have hfits : ¬ maxBytes < (String.ofList ('/' :: rest)).utf8ByteSize := by
    rw [String.utf8ByteSize_ofList]
    exact Nat.not_lt.2 hsize
  unfold ofText?
  rw [if_neg hfits, String.toList_ofList]
  rfl

/-- A path of characters that need no encoding is a target. -/
theorem ofText?_path {rest : List Char} (hchars : ∀ c ∈ '/' :: rest, isPathChar c = true)
    (hsize : String.utf8Len ('/' :: rest) ≤ maxBytes) :
    ofText? (String.ofList ('/' :: rest))
      = some (.relative (String.ofList ('/' :: rest)) none) := by
  have hfragment : withoutFragment ('/' :: rest) = '/' :: rest := by
    refine List.takeWhile_eq_self_iff.2 fun c hc => decide_eq_true ?_
    rintro rfl
    exact absurd (hchars _ hc) (by decide)
  have hquery : Text.cutAt? '?' ('/' :: rest) = none :=
    Text.cutAt?_eq_none fun hmem => absurd (hchars _ hmem) (by decide)
  have hparts : ofParts? .absent ('/' :: rest) none
      = some (.relative (String.ofList ('/' :: rest)) none) :=
    if_pos ⟨List.all_eq_true.2 hchars, rfl⟩
  rw [ofText?_slash hsize, ofPathAndQuery?, hfragment, hquery]
  exact hparts

/-- A path and a query of characters that need no encoding are a target. -/
theorem ofText?_query {rest query : List Char}
    (hpath : ∀ c ∈ '/' :: rest, isPathChar c = true)
    (hquery : ∀ c ∈ query, isQueryChar c = true)
    (hsize : String.utf8Len ('/' :: rest ++ '?' :: query) ≤ maxBytes) :
    ofText? (String.ofList ('/' :: rest ++ '?' :: query))
      = some (.relative (String.ofList ('/' :: rest)) (some (String.ofList query))) := by
  have hfragment : withoutFragment ('/' :: rest ++ '?' :: query) = '/' :: rest ++ '?' :: query := by
    refine List.takeWhile_eq_self_iff.2 fun c hc => decide_eq_true ?_
    rintro rfl
    rcases List.mem_append.1 hc with hc | hc
    · exact absurd (hpath _ hc) (by decide)
    · rcases List.mem_cons.1 hc with hmark | hc
      · exact absurd hmark (by decide)
      · exact absurd (hquery _ hc) (by decide)
  have hcut : Text.cutAt? '?' ('/' :: rest ++ '?' :: query) = some ('/' :: rest, query) :=
    Text.cutAt?_eq_some_iff.2 ⟨fun hmem => absurd (hpath _ hmem) (by decide), rfl⟩
  have hparts : ofParts? .absent ('/' :: rest) (some query)
      = some (.relative (String.ofList ('/' :: rest)) (some (String.ofList query))) :=
    if_pos ⟨List.all_eq_true.2 hpath, List.all_eq_true.2 hquery⟩
  rw [List.cons_append] at hsize hfragment hcut ⊢
  rw [ofText?_slash hsize, ofPathAndQuery?, hfragment, hcut]
  exact hparts

/-- A path and a query of characters that need no encoding are read as they stand. -/
theorem ofText?_relative {path : List Char} {query : Option String}
    (hpath : ∀ c ∈ '/' :: path, isPathChar c = true)
    (hquery : ∀ q, query = some q → ∀ c ∈ q.toList, isQueryChar c = true)
    (hfits : (relative (String.ofList ('/' :: path)) query).fits = true) :
    ofText? (relative (String.ofList ('/' :: path)) query).pathAndQuery
      = some (relative (String.ofList ('/' :: path)) query) := by
  have hsize := of_decide_eq_true hfits
  cases query with
  | none =>
    refine ofText?_path hpath ?_
    rw [← String.utf8ByteSize_ofList]
    exact hsize
  | some q =>
    have htext : (relative (String.ofList ('/' :: path)) (some q)).pathAndQuery
        = String.ofList ('/' :: path ++ '?' :: q.toList) := by
      have hmark : String.ofList ('?' :: q.toList) = "?" ++ q := by
        rw [← List.singleton_append, String.ofList_append, String.ofList_toList]
      rw [String.ofList_append, hmark, ← String.append_assoc]
      rfl
    rw [htext] at hsize ⊢
    rw [String.utf8ByteSize_ofList] at hsize
    have hread := ofText?_query hpath (hquery q rfl) hsize
    rw [String.ofList_toList] at hread
    exact hread

/-! ### The characters of targets -/

/-- Whether all characters of a target need no encoding. -/
structure IsPlain (u : Uri) : Prop where
  path : ∀ c ∈ u.path.toList, isPathChar c = true
  query : ∀ q, u.query = some q → ∀ c ∈ q.toList, isQueryChar c = true

theorem isPlain_of_ofParts? {origin : Origin} {path : List Char} {query : Option (List Char)}
    {u : Uri} (h : ofParts? origin path query = some u) : u.IsPlain := by
  by_cases hchars : path.all isPathChar = true ∧ (query.all fun q => q.all isQueryChar) = true
  · rw [ofParts?, if_pos hchars] at h
    obtain ⟨hpath, hquery⟩ := hchars
    rw [← Option.some.inj h]
    constructor
    · dsimp only
      split_ifs
      · exact List.all_eq_true.1 (by decide)
      · rw [String.toList_ofList]
        exact List.all_eq_true.1 hpath
    · intro q hq
      obtain ⟨q', rfl, rfl⟩ := Option.map_eq_some_iff.1 hq
      rw [String.toList_ofList]
      exact List.all_eq_true.1 hquery
  · rw [ofParts?, if_neg hchars] at h
    exact absurd h (by simp)

theorem isPlain_of_ofPathAndQuery? {origin : Origin} {s : List Char} {u : Uri}
    (h : ofPathAndQuery? origin s = some u) : u.IsPlain := by
  unfold ofPathAndQuery? at h
  split at h
  · exact isPlain_of_ofParts? h
  · exact isPlain_of_ofParts? h

/-- What is read as a target is made of characters that need no encoding. -/
theorem isPlain_of_ofText? {s : String} {u : Uri} (h : ofText? s = some u) : u.IsPlain := by
  unfold ofText? at h
  split_ifs at h
  split at h
  · exact absurd h (by simp)
  · rw [← Option.some.inj h]
    exact ⟨List.all_eq_true.1 (by decide), fun q hq => absurd hq (by simp [relative])⟩
  · exact isPlain_of_ofPathAndQuery? h
  · unfold ofAbsolute? at h
    split at h
    · exact absurd h (by simp)
    · split_ifs at h
      rw [← Option.some.inj h]
      exact ⟨by simp, fun q hq => absurd hq (by simp)⟩
    · dsimp only at h
      split_ifs at h
      exact isPlain_of_ofPathAndQuery? h

end AuthGateway.Uri
