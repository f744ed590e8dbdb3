import AuthGateway.Proofs.Admission.Extraction
import AuthGateway.Proofs.Http.Header

/-!
# Cookies of other names

Two cookie fields differ only in cookies of other names when one becomes the other by leaving out
and putting in pieces that are no pair of the name (`DifferInOthers`).  They then offer the same
values under the name, and in the same order.  A field is passed over whole, however, where any of
its bytes is not printable ASCII, so that a cookie of another name can hide the one of this name.

`ofHeaders_otherCookies_iff` says when the outcome stays the same: the two fields both read as text
or neither does, or an earlier field decides, or the request offers the same token without the
field.
-/

namespace AuthGateway.Extraction

variable {name value : List Char} {l l' : List (List Char)} {h before after : Headers}

/-- Whether two lists of pieces differ only in pieces that are no pair of a name. -/
inductive DifferInOthers (name : List Char) : List (List Char) → List (List Char) → Prop where
  | nil : DifferInOthers name [] []
  | same (piece : List Char) {l l' : List (List Char)} :
    DifferInOthers name l l' → DifferInOthers name (piece :: l) (piece :: l')
  | removed {piece : List Char} {l l' : List (List Char)}
    (hother : ∀ rest, ¬ IsPair name piece rest) :
    DifferInOthers name l l' → DifferInOthers name (piece :: l) l'
  | added {piece : List Char} {l l' : List (List Char)}
    (hother : ∀ rest, ¬ IsPair name piece rest) :
    DifferInOthers name l l' → DifferInOthers name l (piece :: l')

/-- A piece is no pair of a name when another name stands in front of its `=`, or there is none. -/
theorem not_isPair {piece : List Char}
    (hkey : (Text.cutAt? '=' piece).map (fun c => Text.trim c.1) ≠ some name) (rest : List Char) :
    ¬ IsPair name piece rest := by
  rintro ⟨key, hfree, rfl, hname⟩
  rw [Text.cutAt?_eq_some_iff.2 ⟨hfree, rfl⟩, Option.map_some, Text.trim_eq_iff.2 hname] at hkey
  exact hkey rfl

/-- A piece that is no pair of a name offers nothing under it. -/
theorem offer?_eq_none {piece : List Char} (hother : ∀ rest, ¬ IsPair name piece rest) :
    offer? name piece = none := by
  rw [Option.eq_none_iff_forall_ne_some]
  intro value hvalue
  obtain ⟨-, rest, -, hpair, -⟩ := offer?_eq_some_iff.1 hvalue
  exact hother rest hpair

/-- Pieces that differ only in others offer the same value first. -/
theorem DifferInOthers.findSome?_eq (hothers : DifferInOthers name l l') :
    l.findSome? (offer? name) = l'.findSome? (offer? name) := by
  induction hothers with
  | nil => rfl
  | same piece _ ih => rw [List.findSome?_cons, List.findSome?_cons, ih]
  | removed hother _ ih => rw [List.findSome?_cons, offer?_eq_none hother, ih]
  | added hother _ ih => rw [List.findSome?_cons, offer?_eq_none hother, ih]

/-! ### One field among others -/

/-- A cookie field does not matter for what a request offers without cookies. -/
theorem withoutCookie_cookie (v : String) :
    withoutCookie (before ++ ("cookie", v) :: after) = withoutCookie (before ++ after) := by
  have hget : Headers.get? (before ++ ("cookie", v) :: after) "authorization"
      = Headers.get? (before ++ after) "authorization" := by
    unfold Headers.get?
    rw [List.lookup_append, List.lookup_append, List.lookup_cons]
    rfl
  rw [withoutCookie, hget, withoutCookie]

/-- A request offers what the cookie fields in front of one offer, or else that one if it reads as
text, or else the fields behind it. -/
theorem ofHeaders_cookie {name : String} (hname : name ≠ "") (v : String) :
    ofHeaders (before ++ ("cookie", v) :: after) name
      = withCookie (before ++ after) (((pieces before).findSome? (offer? name.toList)).or
          ((if Header.IsReadable v then (v.toList.splitOn ';').findSome? (offer? name.toList)
            else none).or ((pieces after).findSome? (offer? name.toList)))) := by
  have hname' : name.toList ≠ [] := fun hnil => hname (String.toList_eq_nil_iff.1 hnil)
  rw [ofHeaders_eq_withCookie, cookieNamed?_eq hname', withCookie, withoutCookie_cookie,
    ← withCookie, pieces_append, pieces_cons, List.findSome?_append, List.findSome?_append]
  by_cases hv : Header.IsReadable v
  · rw [if_pos hv, if_pos hv]
  · rw [if_neg hv, if_neg hv, List.findSome?_nil]

/-- A cookie field whose other cookies are changed gives the same outcome exactly when it reads as
text as it did before, or an earlier field offers a value, or the request without it offers what the
field does. -/
theorem ofHeaders_otherCookies_iff (before after : Headers) {name : String} (hname : name ≠ "")
    {v w : String}
    (hothers : DifferInOthers name.toList (v.toList.splitOn ';') (w.toList.splitOn ';')) :
    ofHeaders (before ++ ("cookie", v) :: after) name
        = ofHeaders (before ++ ("cookie", w) :: after) name
      ↔ (Header.IsReadable v ↔ Header.IsReadable w)
        ∨ (∃ value, IsFirst name.toList (pieces before) value)
        ∨ ∀ value, IsFirst name.toList (v.toList.splitOn ';') value →
            ofHeaders (before ++ after) name = .found (String.ofList value) := by
  have hname' : name.toList ≠ [] := fun hnil => hname (String.toList_eq_nil_iff.1 hnil)
  rw [ofHeaders_cookie hname, ofHeaders_cookie hname, ← hothers.findSome?_eq,
    ofHeaders_eq_withCookie, cookieNamed?_eq hname', pieces_append, List.findSome?_append]
  simp only [isFirst_iff]
  cases (pieces before).findSome? (offer? name.toList) with
  | some value => simp only [Option.some_or, Option.some.injEq, exists_eq', true_or, or_true]
  | none =>
    cases (v.toList.splitOn ';').findSome? (offer? name.toList) with
    | none => simp only [ite_self, reduceCtorEq, false_imp_iff, forall_const, or_true]
    | some value =>
      simp only [Option.none_or, reduceCtorEq, exists_false, false_or, Option.some.injEq,
        forall_eq']
      -- only where one field reads as text and the other does not are two outcomes compared
      by_cases hv : Header.IsReadable v <;> by_cases hw : Header.IsReadable w
      · simp only [hv, hw, true_or]
      · rw [if_pos hv, if_neg hw, Option.some_or, Option.none_or]
        simp only [hv, hw, iff_false, not_true, false_or]
        exact eq_comm
      · rw [if_neg hv, if_pos hw, Option.some_or, Option.none_or]
        simp only [hv, hw, iff_true, false_or]
        rfl
      · simp only [hv, hw, true_or]

/-- Two fields that differ in cookies of other names and both read as text offer the same, here
behind a field that does not read as text. -/
theorem ofHeaders_otherCookies_iff_readable :
    ("access_token" ≠ "" ∧ DifferInOthers "access_token".toList
          ("theme=dark; access_token=tok".toList.splitOn ';')
          ("lang=en; access_token=tok; theme".toList.splitOn ';')
        ∧ (Header.IsReadable "theme=dark; access_token=tok"
          ↔ Header.IsReadable "lang=en; access_token=tok; theme"))
      ∧ ofHeaders ([("cookie", "access_token=日本")]
            ++ ("cookie", "theme=dark; access_token=tok") :: []) "access_token"
        = ofHeaders ([("cookie", "access_token=日本")]
            ++ ("cookie", "lang=en; access_token=tok; theme") :: []) "access_token" := by
  have hname : "access_token" ≠ "" := by decide
  have hothers : DifferInOthers "access_token".toList
      ("theme=dark; access_token=tok".toList.splitOn ';')
      ("lang=en; access_token=tok; theme".toList.splitOn ';') := by
    have hv : "theme=dark; access_token=tok".toList.splitOn ';'
        = ["theme=dark".toList, " access_token=tok".toList] := by decide
    have hw : "lang=en; access_token=tok; theme".toList.splitOn ';'
        = ["lang=en".toList, " access_token=tok".toList, " theme".toList] := by decide
    rw [hv, hw]
    exact .removed (not_isPair (by decide))
      (.added (not_isPair (by decide)) (.same _ (.added (not_isPair (by decide)) .nil)))
  have hreads : Header.IsReadable "theme=dark; access_token=tok"
      ↔ Header.IsReadable "lang=en; access_token=tok; theme" := by decide
  exact ⟨⟨hname, hothers, hreads⟩, (ofHeaders_otherCookies_iff _ _ hname hothers).2 (Or.inl hreads)⟩

/-- A cookie of another name that is not printable ASCII hides the token in the field. -/
theorem ofHeaders_hidden_by_theme :
    DifferInOthers "access_token".toList ("theme=light; access_token=tok".toList.splitOn ';')
        ("theme=日本; access_token=tok".toList.splitOn ';')
      ∧ Header.isValue "theme=light; access_token=tok" = true
      ∧ Header.isValue "theme=日本; access_token=tok" = true
      ∧ ofHeaders [("cookie", "theme=light; access_token=tok")] "access_token" = .found "tok"
      ∧ ofHeaders [("cookie", "theme=日本; access_token=tok")] "access_token" = .absent := by
  have hv : "theme=light; access_token=tok".toList.splitOn ';'
      = ["theme=light".toList, " access_token=tok".toList] := by decide
  have hw : "theme=日本; access_token=tok".toList.splitOn ';'
      = ["theme=日本".toList, " access_token=tok".toList] := by decide
  refine ⟨?_, by decide, by decide, by decide, by decide⟩
  rw [hv, hw]
  exact .removed (not_isPair (by decide)) (.added (not_isPair (by decide)) (.same _ .nil))

end AuthGateway.Extraction
