import AuthGateway.Admission.Extraction
import AuthGateway.Proofs.Http.HeaderValue
import AuthGateway.Proofs.Text.Leading
import AuthGateway.Proofs.Token.Bearer

/-!
# What a request offers

The cookie fields of a request are cut into pieces (`pieces`), and a piece offers a value under a
name when the name stands in front of its first `=` and the value behind it, each with blanks around
it and the value in any number of quotes (`Offers`).  The first piece that offers a value decides
(`IsFirst`).  Where there is none the first `Authorization` value does, and no other field matters
(`Presents`).

Reading a request finds exactly that (`presents_ofHeaders`): trimming a piece before it is cut makes
no difference to what stands on either side of the `=` (`cookie?_eq`), and looking for the first
cookie is looking for the first piece that offers something (`cookieNamed?_eq`).
-/

namespace AuthGateway.Extraction

open Text

variable {h before after : Headers} {name piece value token : List Char}

/-! ### Pieces of cookie fields -/

/-- The pieces of the cookie fields that read as text, in order. -/
def pieces (h : Headers) : List (List Char) :=
  ((h.all "cookie").filter fun value => Header.IsReadable value).flatMap fun value =>
    value.toList.splitOn ';'

/-- Whether a piece is a pair of a name: the name stands, with blanks around it, in front of the
first `=` of the piece, and the rest behind it. -/
def IsPair (name piece rest : List Char) : Prop :=
  ∃ key, '=' ∉ key ∧ piece = key ++ '=' :: rest ∧ IsCore isBlank name key

/-- Whether a piece offers a value under a name: the piece is a pair of the name, and behind the `=`
stands the value, with blanks around it and then quotes.  An empty value is no offer. -/
def Offers (name piece value : List Char) : Prop :=
  value ≠ [] ∧ ∃ rest inner, IsPair name piece rest ∧ IsCore isBlank inner rest
    ∧ IsCore (· = '"') value inner

/-- Whether a value is the first that pieces offer under a name. -/
def IsFirst (name : List Char) (pieces : List (List Char)) (value : List Char) : Prop :=
  ∃ earlier piece later, pieces = earlier ++ piece :: later ∧ Offers name piece value
    ∧ ∀ p ∈ earlier, ∀ v, ¬ Offers name p v

theorem pieces_append : pieces (before ++ after) = pieces before ++ pieces after := by
  unfold pieces Headers.all
  rw [List.filter_append, List.map_append, List.filter_append, List.flatMap_append]

/-- The pieces of a cookie field come first, if it reads as text. -/
theorem pieces_cons (value : String) : pieces (("cookie", value) :: after)
    = (if Header.IsReadable value then value.toList.splitOn ';' else []) ++ pieces after := by
  have hall : Headers.all (("cookie", value) :: after) "cookie"
      = value :: Headers.all after "cookie" := rfl
  unfold pieces
  rw [hall]
  by_cases hvalue : Header.IsReadable value
  · rw [List.filter_cons_of_pos (by simpa using hvalue), List.flatMap_cons, if_pos hvalue]
  · rw [List.filter_cons_of_neg (by simpa using hvalue), if_neg hvalue, List.nil_append]

/-! ### One piece -/

/-- Trimming a piece before it is cut makes no difference. -/
theorem cookie?_eq (piece : List Char) :
    cookie? piece = (cutAt? '=' piece).map fun (name, value) =>
      (trim name, trimWhere (· = '"') (trim value)) := by
  obtain ⟨core, htrim⟩ : ∃ core, trim piece = core := ⟨_, rfl⟩
  rw [cookie?, htrim]
  obtain ⟨⟨front, back, rfl, hfront, hback⟩, -⟩ := trim_eq_iff.1 htrim
  have hblank : ∀ {s : List Char}, (∀ c ∈ s, isBlank c = true) → '=' ∉ s := by
    intro s hs hmem
    exact absurd (hs '=' hmem) (by decide)
  -- blanks hold no `=`, so the first one of the piece is the first one of what trimming leaves
  by_cases hcore : '=' ∈ core
  · obtain ⟨key, rest, rfl, hkey⟩ := List.eq_append_cons_of_mem hcore
    have hcut : cutAt? '=' (front ++ (key ++ '=' :: rest) ++ back)
        = some (front ++ key, rest ++ back) := by
      refine cutAt?_eq_some_iff.2 ⟨?_, by simp⟩
      rw [List.mem_append, not_or]
      exact ⟨hblank hfront, hkey⟩
    have hname : trim (front ++ key) = trim key := by
      have haround := trimWhere_around hfront (List.forall_mem_nil _) key
      rw [List.append_nil] at haround
      exact haround
    have hvalue : trim (rest ++ back) = trim rest :=
      trimWhere_around (List.forall_mem_nil _) hback rest
    rw [cutAt?_eq_some_iff.2 ⟨hkey, rfl⟩, hcut, Option.map_some, Option.map_some]
    dsimp only
    rw [hname, hvalue]
  · have hnone : '=' ∉ front ++ core ++ back := by
      simp only [List.mem_append, not_or]
      exact ⟨⟨hblank hfront, hcore⟩, hblank hback⟩
    rw [cutAt?_eq_none hcore, cutAt?_eq_none hnone]

/-- What a piece offers is the cookie in it, when that has the name and a value. -/
theorem offers_iff : Offers name piece value ↔ cookie? piece = some (name, value) ∧ value ≠ [] := by
  rw [cookie?_eq, and_comm, Option.map_eq_some_iff, Offers, and_congr_right_iff]
  intro _
  constructor
  · rintro ⟨rest, inner, ⟨key, hkey, rfl, hname⟩, hinner, hvalue⟩
    refine ⟨(key, rest), cutAt?_eq_some_iff.2 ⟨hkey, rfl⟩, ?_⟩
    dsimp only
    rw [trim_eq_iff.2 hname, trim_eq_iff.2 hinner, trimWhere_eq_iff.2 hvalue]
  · rintro ⟨⟨key, rest⟩, hcut, heq⟩
    obtain ⟨hkey, rfl⟩ := cutAt?_eq_some_iff.1 hcut
    obtain ⟨hname, hvalue⟩ := Prod.mk.inj heq
    exact ⟨rest, trim rest, ⟨key, hkey, rfl, trim_eq_iff.1 hname⟩, trim_eq_iff.1 rfl,
      trimWhere_eq_iff.1 hvalue⟩

/-- What a piece offers under a name. -/
def offer? (name piece : List Char) : Option (List Char) :=
  (cookie? piece).bind fun c => if c.1 = name ∧ c.2 ≠ [] then some c.2 else none

theorem offer?_eq_some_iff : offer? name piece = some value ↔ Offers name piece value := by
  rw [offers_iff, offer?, Option.bind_eq_some_iff]
  constructor
  · rintro ⟨c, hc, h⟩
    split_ifs at h with hname
    obtain rfl := Option.some.inj h
    rw [hc, ← hname.1]
    exact ⟨rfl, hname.2⟩
  · rintro ⟨hc, hvalue⟩
    exact ⟨(name, value), hc, if_pos ⟨rfl, hvalue⟩⟩

/-! ### The first piece that offers something -/

theorem isFirst_iff {l : List (List Char)} :
    IsFirst name l value ↔ l.findSome? (offer? name) = some value := by
  rw [List.findSome?_eq_some_iff]
  have hnone (p : List Char) : (∀ v, ¬ Offers name p v) ↔ offer? name p = none := by
    rw [Option.eq_none_iff_forall_ne_some]
    exact forall_congr' fun v => not_congr offer?_eq_some_iff.symm
  simp only [IsFirst, offer?_eq_some_iff, hnone]

/-- Looking for a cookie is looking for the first piece that offers something. -/
theorem cookieNamed?_eq (hname : name ≠ []) :
    cookieNamed? h name = (pieces h).findSome? (offer? name) := by
  have hreadable (values : List String) : values.filterMap Header.text?
      = (values.filter fun value => Header.IsReadable value).map String.toList := by
    induction values with
    | nil => rfl
    | cons value values ih =>
      by_cases hvalue : Header.IsReadable value
      · rw [List.filterMap_cons_some (Header.text?_eq_some_iff.2 ⟨hvalue, rfl⟩),
          List.filter_cons_of_pos (by simpa using hvalue), List.map_cons, ih]
      · rw [List.filterMap_cons_none (Header.text?_eq_none_iff.2 hvalue),
          List.filter_cons_of_neg (by simpa using hvalue), ih]
  have hcookies : cookies h = (pieces h).filterMap cookie? := by
    unfold cookies pieces cookiesOf
    rw [hreadable, List.flatMap_map, List.filterMap_flatMap]
  rw [cookieNamed?, if_neg hname, hcookies]
  -- on the left the pieces are read first and then searched, on the right both at once
  induction pieces h with
  | nil => rfl
  | cons piece rest ih =>
    rw [List.findSome?_cons, offer?]
    cases hcookie : cookie? piece with
    | none =>
      rw [List.filterMap_cons_none hcookie]
      exact ih
    | some c =>
      rw [List.filterMap_cons_some hcookie, List.find?_cons, Option.bind_some]
      by_cases hc : c.1 = name ∧ c.2 ≠ []
      · rw [if_pos hc, decide_eq_true hc]
        rfl
      · rw [if_neg hc, decide_eq_false hc]
        exact ih

/-! ### What a request presents -/

/-- Whether a value is the first that the cookies of a request offer under a name, which must not be
empty. -/
def HasCookie (h : Headers) (name value : List Char) : Prop :=
  name ≠ [] ∧ IsFirst name (pieces h) value

/-- Whether a value holds nothing but spaces and tabs. -/
def IsBlankValue (value : String) : Prop :=
  ∀ c ∈ value.toList, c = ' ' ∨ c = '\t'

/-- What a request presents under the name of its cookie. -/
inductive Presents (h : Headers) (name : List Char) : Extraction → Prop where
  /-- A cookie decides, whatever other fields there are. -/
  | cookie {value : List Char} (hcookie : HasCookie h name value) :
    Presents h name (.found (String.ofList value))
  /-- Without a cookie, the first `Authorization` value does: it is the scheme and a token. -/
  | bearer (hnone : ∀ value, ¬ HasCookie h name value) {value token : String}
    (hvalue : h.get? "authorization" = some value) (hreadable : Header.IsReadable value)
    (htoken : Bearer.IsBearer value.toList token.toList) : Presents h name (.found token)
  /-- There is no such value, or it is blank. -/
  | absent (hnone : ∀ value, ¬ HasCookie h name value)
    (hblank : ∀ value, h.get? "authorization" = some value → IsBlankValue value) :
    Presents h name .absent
  /-- There is any other value. -/
  | malformed (hnone : ∀ value, ¬ HasCookie h name value) {value : String}
    (hvalue : h.get? "authorization" = some value) (hvisible : ¬ IsBlankValue value)
    (hother : ¬ ∃ token : String,
      Header.IsReadable value ∧ Bearer.IsBearer value.toList token.toList) :
    Presents h name .malformed

theorem hasCookie_iff : HasCookie h name value ↔ cookieNamed? h name = some value := by
  unfold HasCookie
  by_cases hname : name = []
  · rw [cookieNamed?, if_pos hname]
    simp [hname]
  · rw [cookieNamed?_eq hname, isFirst_iff, and_iff_right hname]

/-- A value is blank when it reads as text and all of it is white space. -/
theorem isBlankValue_iff {value : String} :
    IsBlankValue value
      ↔ Header.IsReadable value ∧ ∀ c ∈ value.toList, isBlank c = true := by
  have hchar (c : Char) : c = ' ' ∨ c = '\t' ↔ isHeaderText c = true ∧ isBlank c = true := by
    constructor
    · rintro (rfl | rfl) <;> decide
    · rw [← Char.toNat_inj (c := c) (d := ' '), ← Char.toNat_inj (c := c) (d := '\t')]
      simp only [isHeaderText, isBlank, Bool.or_eq_true, Bool.and_eq_true, decide_eq_true_eq,
        beq_iff_eq, ← Char.toNat_inj (d := '\t')]
      rintro ⟨htext, hblank⟩
      have hspace : ' '.toNat = 0x20 := rfl
      have htab : '\t'.toNat = 0x09 := rfl
      omega
  unfold IsBlankValue
  rw [Header.isReadable_iff]
  simp only [hchar]
  exact forall₂_and

theorem ofAuthorization_eq_found_iff {value token : String} :
    ofAuthorization value = .found token
      ↔ Header.IsReadable value ∧ Bearer.IsBearer value.toList token.toList := by
  rw [← Bearer.read_eq_token_iff, ofAuthorization]
  cases htext : Header.text? value with
  | none => simp [Header.text?_eq_none_iff.1 htext]
  | some text =>
    obtain ⟨hreadable, rfl⟩ := Header.text?_eq_some_iff.1 htext
    dsimp only
    cases Bearer.read value.toList <;> simp [hreadable]

theorem ofAuthorization_eq_absent_iff {value : String} :
    ofAuthorization value = .absent ↔ IsBlankValue value := by
  rw [isBlankValue_iff, ← Bearer.read_eq_nothing_iff, ofAuthorization]
  cases htext : Header.text? value with
  | none => simp [Header.text?_eq_none_iff.1 htext]
  | some text =>
    obtain ⟨hreadable, rfl⟩ := Header.text?_eq_some_iff.1 htext
    dsimp only
    cases Bearer.read value.toList <;> simp [hreadable]

/-- What is found in a request is what it presents. -/
theorem presents_ofHeaders (h : Headers) (name : String) :
    Presents h name.toList (ofHeaders h name) := by
  rw [ofHeaders]
  cases hcookie : cookieNamed? h name.toList with
  | some value => exact .cookie (hasCookie_iff.2 hcookie)
  | none =>
    have hnone (value : List Char) : ¬ HasCookie h name.toList value := by
      simp [hasCookie_iff, hcookie]
    cases hvalue : h.get? "authorization" with
    | none => exact .absent hnone fun value h => absurd (hvalue.symm.trans h) (by simp)
    | some value =>
      dsimp only
      cases houtcome : ofAuthorization value with
      | found token =>
        obtain ⟨hreadable, htoken⟩ := ofAuthorization_eq_found_iff.1 houtcome
        exact .bearer hnone hvalue hreadable htoken
      | absent =>
        refine .absent hnone fun value' hvalue' => ?_
        obtain rfl := Option.some.inj (hvalue.symm.trans hvalue')
        exact ofAuthorization_eq_absent_iff.1 houtcome
      | malformed =>
        refine .malformed hnone hvalue ?_ ?_
        · rw [← ofAuthorization_eq_absent_iff, houtcome]
          simp
        · simp only [← ofAuthorization_eq_found_iff, houtcome]
          simp

/-- What a request offers without cookies. -/
def withoutCookie (h : Headers) : Extraction :=
  ((h.get? "authorization").map ofAuthorization).getD .absent

/-- What a request offers, given the value of its cookie. -/
def withCookie (h : Headers) (cookie : Option (List Char)) : Extraction :=
  cookie.elim (withoutCookie h) fun value => .found (String.ofList value)

theorem ofHeaders_eq_withCookie (h : Headers) (name : String) :
    ofHeaders h name = withCookie h (cookieNamed? h name.toList) := by
  rw [ofHeaders]
  cases cookieNamed? h name.toList with
  | some value => rfl
  | none =>
    unfold withCookie withoutCookie
    cases h.get? "authorization" <;> rfl

/-- A request presents one thing. -/
theorem Presents.unique {e : Extraction} {name : String} (hpresents : Presents h name.toList e) :
    ofHeaders h name = e := by
  rw [ofHeaders_eq_withCookie]
  have hfirst (hnone : ∀ value, ¬ HasCookie h name.toList value) :
      withCookie h (cookieNamed? h name.toList) = withoutCookie h := by
    have hnone' : cookieNamed? h name.toList = none :=
      Option.eq_none_iff_forall_ne_some.2 fun value h => hnone value (hasCookie_iff.2 h)
    rw [hnone', withCookie, Option.elim_none]
  cases hpresents with
  | cookie h => rw [hasCookie_iff.1 h, withCookie, Option.elim_some]
  | bearer hnone hvalue hreadable htoken =>
    rw [hfirst hnone, withoutCookie, hvalue, Option.map_some, Option.getD_some]
    exact ofAuthorization_eq_found_iff.2 ⟨hreadable, htoken⟩
  | absent hnone hblank =>
    rw [hfirst hnone, withoutCookie]
    cases hvalue : h.get? "authorization" with
    | none => rfl
    | some value => exact ofAuthorization_eq_absent_iff.2 (hblank value hvalue)
  | @malformed hnone value hvalue hvisible hother =>
    rw [hfirst hnone, withoutCookie, hvalue, Option.map_some, Option.getD_some]
    cases houtcome : ofAuthorization value with
    | found token => exact absurd ⟨token, ofAuthorization_eq_found_iff.1 houtcome⟩ hother
    | absent => exact absurd (ofAuthorization_eq_absent_iff.1 houtcome) hvisible
    | malformed => rfl

/-! ### Setting a cookie -/

/-- Whether a piece sets a name to a token: blanks may stand in front of the name and behind the
token, and quotes around the token. -/
def Sets (name token piece : List Char) : Prop :=
  ∃ lead opening closing trail,
    piece = lead ++ name ++ '=' :: (opening ++ token ++ closing ++ trail)
      ∧ (∀ c ∈ lead, isBlank c = true) ∧ (∀ c ∈ trail, isBlank c = true)
      ∧ (∀ c ∈ opening, c = '"') ∧ (∀ c ∈ closing, c = '"')

/-- A piece offers the token that it sets the name to. -/
theorem offers_of_sets (hname : '=' ∉ name) (hnameBare : IsBare isBlank name) (htoken : token ≠ [])
    (htokenBare : IsBare (fun c => isBlank c || c = '"') token) (hsets : Sets name token piece) :
    Offers name piece token := by
  obtain ⟨lead, opening, closing, trail, rfl, hlead, htrail, hopening, hclosing⟩ := hsets
  have hequals : '=' ∉ lead := fun h => absurd (hlead '=' h) (by decide)
  have hquote {s : List Char} (hs : ∀ c ∈ s, c = '"') : ∀ c ∈ s, isBlank c = false := by
    intro c hc
    rw [hs c hc]
    decide
  refine ⟨htoken, opening ++ token ++ closing ++ trail, opening ++ token ++ closing,
    ⟨lead ++ name, by simp [hequals, hname], rfl, ⟨lead, [], by simp, hlead, by simp⟩, hnameBare⟩,
    ⟨⟨[], trail, rfl, by simp, htrail⟩, ?_⟩, ⟨⟨opening, closing, rfl, ?_, ?_⟩, ?_⟩⟩
  · -- quotes are no blanks, so trimming stops at them and leaves the token between them
    have hbare : IsBare isBlank token :=
      htokenBare.mono fun c hc => (Bool.or_eq_false_iff.1 hc).1
    exact hbare.append (hquote hopening) (hquote hclosing) htoken
  · simpa using hopening
  · simpa using hclosing
  · exact htokenBare.mono fun c hc => (Bool.or_eq_false_iff.1 hc).2

/-- What is found in a request is exactly what it presents: the first cookie of the name with a
value decides, and otherwise the first `Authorization` value.  So a token, of whatever characters it
is but for blanks and quotes at its ends, is found where a piece of a field sets the name to it and
no piece before it offers anything under that name. -/
theorem ofHeaders_exact (name : String) :
    (∀ (h : Headers) (e : Extraction), ofHeaders h name = e ↔ Presents h name.toList e)
      ∧ ∀ (before after : Headers) (value token : String) (front back : List (List Char))
          (piece : List Char), name ≠ "" → '=' ∉ name.toList → IsBare isBlank name.toList →
        token ≠ "" → IsBare (fun c => isBlank c || c = '"') token.toList →
        Header.IsReadable value → value.toList.splitOn ';' = front ++ piece :: back →
        Sets name.toList token.toList piece →
        (∀ p ∈ pieces before ++ front, ∀ v, ¬ Offers name.toList p v) →
        ofHeaders (before ++ ("cookie", value) :: after) name = .found token := by
  refine ⟨fun h e => ⟨?_, Presents.unique⟩, ?_⟩
  · rintro rfl
    exact presents_ofHeaders h name
  · intro before after value token front back piece hne hname hnameBare htoken htokenBare hvalue
      hsplit hsets hearlier
    have hcookie : HasCookie (before ++ ("cookie", value) :: after) name.toList token.toList := by
      refine ⟨fun hnil => hne (String.toList_eq_nil_iff.1 hnil), pieces before ++ front, piece,
        back ++ pieces after, ?_, ?_, hearlier⟩
      · rw [pieces_append, pieces_cons, if_pos hvalue, hsplit]
        simp
      · exact offers_of_sets hname hnameBare (fun hnil => htoken (String.toList_eq_nil_iff.1 hnil))
          htokenBare hsets
    have hfound := (Presents.cookie hcookie).unique
    rw [String.ofList_toList] at hfound
    exact hfound

/-- A quoted token with a `=` in it is found behind an empty cookie of its name, a field that does
not read as text and another scheme, and in front of a later cookie. -/
theorem ofHeaders_exact_quoted :
    ("access_token" ≠ "" ∧ '=' ∉ "access_token".toList ∧ IsBare isBlank "access_token".toList
        ∧ "a=b" ≠ "" ∧ IsBare (fun c => isBlank c || c = '"') "a=b".toList
        ∧ Header.IsReadable "theme=dark; access_token=\"a=b\" ; x"
        ∧ "theme=dark; access_token=\"a=b\" ; x".toList.splitOn ';'
          = ["theme=dark".toList] ++ " access_token=\"a=b\" ".toList :: [" x".toList]
        ∧ Sets "access_token".toList "a=b".toList " access_token=\"a=b\" ".toList
        ∧ ∀ p ∈ pieces [("authorization", "Basic x"), ("cookie", "access_token=größe"),
            ("cookie", "access_token=\"\"")] ++ ["theme=dark".toList],
          ∀ v, ¬ Offers "access_token".toList p v)
      ∧ ofHeaders ([("authorization", "Basic x"), ("cookie", "access_token=größe"),
            ("cookie", "access_token=\"\"")]
          ++ ("cookie", "theme=dark; access_token=\"a=b\" ; x") :: [("cookie", "access_token=c")])
        "access_token" = .found "a=b" := by
  have hname : "access_token" ≠ "" := by decide
  have hequals : '=' ∉ "access_token".toList := by decide
  have hnameBare : IsBare isBlank "access_token".toList := isBare_of_trimWhere (by decide)
  have htoken : "a=b" ≠ "" := by decide
  have htokenBare : IsBare (fun c => isBlank c || c = '"') "a=b".toList :=
    isBare_of_trimWhere (by decide)
  have hvalue : Header.IsReadable "theme=dark; access_token=\"a=b\" ; x" := by decide
  have hsplit : "theme=dark; access_token=\"a=b\" ; x".toList.splitOn ';'
      = ["theme=dark".toList] ++ " access_token=\"a=b\" ".toList :: [" x".toList] := by decide
  have hsets : Sets "access_token".toList "a=b".toList " access_token=\"a=b\" ".toList :=
    ⟨[' '], ['"'], ['"'], [' '], by decide, List.forall_mem_singleton.2 rfl,
      List.forall_mem_singleton.2 rfl, List.forall_mem_singleton.2 rfl,
      List.forall_mem_singleton.2 rfl⟩
  have hearlier : ∀ p ∈ pieces [("authorization", "Basic x"), ("cookie", "access_token=größe"),
      ("cookie", "access_token=\"\"")] ++ ["theme=dark".toList],
      ∀ v, ¬ Offers "access_token".toList p v := by
    have hnone : ∀ p ∈ pieces [("authorization", "Basic x"), ("cookie", "access_token=größe"),
        ("cookie", "access_token=\"\"")] ++ ["theme=dark".toList],
        offer? "access_token".toList p = none := by decide
    intro p hp v hv
    rw [← offer?_eq_some_iff, hnone p hp] at hv
    simp at hv
  exact ⟨⟨hname, hequals, hnameBare, htoken, htokenBare, hvalue, hsplit, hsets, hearlier⟩,
    (ofHeaders_exact "access_token").2 _ _ _ _ _ _ _ hname hequals hnameBare htoken htokenBare
      hvalue hsplit hsets hearlier⟩

end AuthGateway.Extraction
