import AuthGateway.Proofs.Http.HeaderValue
import AuthGateway.Proofs.Settings.Load
import AuthGateway.Proofs.Text.Leading
import Mathlib.Algebra.Group.Nat.Even
import Mathlib.Data.List.TakeWhile

/-!
# How a client reads a challenge

A field with challenges is a list of them: a scheme and, behind a space, the parameters that belong
to it (`Challenge.Reads`, after RFC 7235).  Inside the quotes of a parameter a backslash stands for
the character behind it, and a quote with no backslash in front of it ends the value
(`Challenge.Unquotes`).

No URL that settings can name holds a quote.  So the value ends where the challenge does, or it does
not end at all: the challenge reads as the scheme with the one parameter `realm`, or not
(`Challenge.reads_challengeFor_iff`).  Backslashes are written as they come, however.  The realm is
the URL exactly when the URL holds none (`Challenge.unquotes_self_iff`), and a URL that ends in an
odd number of them leaves the quotes open (`Challenge.exists_unquotes_iff`).
-/

namespace AuthGateway

/-- A challenge: how to authenticate, and what there is to know about it. -/
structure Challenge where
  scheme : List Char
  /-- Values by name. -/
  parameters : List (List Char × List Char)
  deriving DecidableEq, Repr

namespace Challenge

/-! ### The grammar -/

/-- A word: some of the characters that names of fields are made of. -/
def IsWord (s : List Char) : Prop :=
  s ≠ [] ∧ ∀ c ∈ s, Header.isNameChar c = true

/-- A text between quotes, and what it stands for. -/
inductive Unquotes : List Char → List Char → Prop where
  | nil : Unquotes [] []
  | plain {c : Char} {s v : List Char} (hquote : c ≠ '"') (hslash : c ≠ '\\') :
    Unquotes s v → Unquotes (c :: s) (c :: v)
  | escaped (c : Char) {s v : List Char} : Unquotes s v → Unquotes ('\\' :: c :: s) (c :: v)

/-- The value of a parameter as it is written, and what it stands for. -/
inductive IsValue : List Char → List Char → Prop where
  | word {s : List Char} (h : IsWord s) : IsValue s s
  | quoted {s v : List Char} (h : Unquotes s v) : IsValue ('"' :: (s ++ ['"'])) v

/-- A comma, with blanks around it. -/
def IsSeparator (s : List Char) : Prop :=
  ∃ before after, s = before ++ ',' :: after ∧ ∀ c ∈ before ++ after, c = ' ' ∨ c = '\t'

/-- Parameters as they are written. -/
inductive IsParameters : List Char → List (List Char × List Char) → Prop where
  | one {name s v : List Char} (hname : IsWord name) (hvalue : IsValue s v) :
    IsParameters (name ++ '=' :: s) [(name, v)]
  | more {name s v separator rest : List Char} {parameters : List (List Char × List Char)}
    (hname : IsWord name) (hvalue : IsValue s v) (hseparator : IsSeparator separator)
    (hrest : IsParameters rest parameters) :
    IsParameters (name ++ '=' :: (s ++ (separator ++ rest))) ((name, v) :: parameters)

/-- The challenges that a text holds from end to end. -/
inductive Reads : List Char → List Challenge → Prop where
  | one {scheme s : List Char} {parameters : List (List Char × List Char)}
    (hscheme : IsWord scheme) (spaces : Nat) (hparameters : IsParameters s parameters) :
    Reads (scheme ++ ' ' :: (List.replicate spaces ' ' ++ s)) [⟨scheme, parameters⟩]
  | more {scheme s separator rest : List Char} {parameters : List (List Char × List Char)}
    {challenges : List Challenge} (hscheme : IsWord scheme) (spaces : Nat)
    (hparameters : IsParameters s parameters) (hseparator : IsSeparator separator)
    (hrest : Reads rest challenges) :
    Reads (scheme ++ ' ' :: (List.replicate spaces ' ' ++ (s ++ (separator ++ rest))))
      (⟨scheme, parameters⟩ :: challenges)

/-- The challenge to present a token for a realm. -/
def bearer (realm : List Char) : Challenge :=
  ⟨"Bearer".toList, [("realm".toList, realm)]⟩

/-! ### Between quotes -/

variable {s v : List Char}

/-- A text stands for one text at most. -/
theorem Unquotes.unique {w : List Char} (hv : Unquotes s v) (hw : Unquotes s w) : v = w := by
  induction hv generalizing w with
  | nil =>
    cases hw
    rfl
  | plain hquote hslash _ ih =>
    cases hw with
    | plain _ _ hw => rw [ih hw]
    | escaped => exact absurd rfl hslash
  | escaped c _ ih =>
    cases hw with
    | plain _ hslash _ => exact absurd rfl hslash
    | escaped _ hw => rw [ih hw]

/-- What a text stands for is no longer than the text. -/
theorem Unquotes.length_le (h : Unquotes s v) : v.length ≤ s.length := by
  induction h with
  | nil => exact Nat.le_refl 0
  | plain _ _ _ ih =>
    simp only [List.length_cons]
    omega
  | escaped _ _ ih =>
    simp only [List.length_cons]
    omega

/-- A text that is as long as what it stands for holds no backslash, as an escape is longer. -/
theorem Unquotes.not_mem_of_length_eq (h : Unquotes s v) (hlength : v.length = s.length) :
    '\\' ∉ s := by
  induction h with
  | nil => exact List.not_mem_nil
  | plain _ hslash _ ih =>
    simp only [List.length_cons, Nat.add_right_cancel_iff] at hlength
    rw [List.mem_cons, not_or]
    exact ⟨Ne.symm hslash, ih hlength⟩
  | escaped _ h =>
    have hle := h.length_le
    simp only [List.length_cons] at hlength
    omega

/-- A text without quotes stands for itself exactly when it holds no backslash. -/
theorem unquotes_self_iff (hquote : '"' ∉ s) : Unquotes s s ↔ '\\' ∉ s := by
  constructor
  · intro h
    exact h.not_mem_of_length_eq rfl
  · intro hslash
    induction s with
    | nil => exact .nil
    | cons c s ih =>
      rw [List.mem_cons, not_or] at hquote hslash
      exact .plain (Ne.symm hquote.1) (Ne.symm hslash.1) (ih hquote.2 hslash.2)

/-- How many backslashes stand at the end of a text. -/
def trailing (s : List Char) : Nat :=
  (s.reverse.takeWhile (· = '\\')).length

theorem trailing_le (s : List Char) : trailing s ≤ s.length := by
  have hle := (List.takeWhile_sublist (l := s.reverse) fun c => decide (c = '\\')).length_le
  rw [List.length_reverse] at hle
  exact hle

/-- A character in front counts when it is a backslash, and nothing else follows. -/
theorem trailing_cons (c : Char) (s : List Char) :
    trailing (c :: s) = if trailing s = s.length ∧ c = '\\' then s.length + 1 else trailing s := by
  unfold trailing
  rw [List.reverse_cons, List.takeWhile_append, List.length_reverse]
  by_cases hall : (s.reverse.takeWhile (· = '\\')).length = s.length
  · by_cases hc : c = '\\'
    · simp [hall, hc]
    · simp [hall, hc]
  · simp [hall]

theorem trailing_cons_of_ne {c : Char} (hslash : c ≠ '\\') (s : List Char) :
    trailing (c :: s) = trailing s := by
  rw [trailing_cons, if_neg fun h => hslash h.2]

/-- An escape in front adds two backslashes to those at the end, or none. -/
theorem even_trailing_escaped (c : Char) (s : List Char) :
    Even (trailing ('\\' :: c :: s)) ↔ Even (trailing s) := by
  have hle := trailing_le s
  rw [trailing_cons, trailing_cons, List.length_cons]
  by_cases hall : trailing s = s.length ∧ c = '\\'
  · rw [if_pos hall, if_pos ⟨rfl, rfl⟩, ← hall.1, Nat.even_add_one, Nat.even_add_one, not_not]
  · have hshort : ¬ (trailing s = s.length + 1 ∧ '\\' = '\\') := by
      rintro ⟨h, -⟩
      omega
    rw [if_neg hall, if_neg hshort]

theorem exists_unquotes_plain {c : Char} (hquote : c ≠ '"') (hslash : c ≠ '\\') :
    (∃ v, Unquotes (c :: s) v) ↔ ∃ v, Unquotes s v := by
  constructor
  · rintro ⟨_, h⟩
    cases h with
    | plain _ _ h => exact ⟨_, h⟩
    | escaped => exact absurd rfl hslash
  · rintro ⟨v, h⟩
    exact ⟨c :: v, .plain hquote hslash h⟩

theorem exists_unquotes_escaped (c : Char) :
    (∃ v, Unquotes ('\\' :: c :: s) v) ↔ ∃ v, Unquotes s v := by
  constructor
  · rintro ⟨_, h⟩
    cases h with
    | plain _ hslash _ => exact absurd rfl hslash
    | escaped _ h => exact ⟨_, h⟩
  · rintro ⟨v, h⟩
    exact ⟨c :: v, .escaped c h⟩

/-- A text without quotes can stand between quotes unless it ends in an odd number of backslashes:
then the last of them makes a character of the closing quote. -/
theorem exists_unquotes_iff (hquote : '"' ∉ s) : (∃ v, Unquotes s v) ↔ Even (trailing s) := by
  -- the induction takes off an escape, or one character that begins none
  induction hn : s.length using Nat.strongRecOn generalizing s with
  | ind n ih =>
    cases s with
    | nil => exact ⟨fun _ => Even.zero, fun _ => ⟨[], .nil⟩⟩
    | cons c s =>
      rw [List.mem_cons, not_or] at hquote
      rw [List.length_cons] at hn
      by_cases hslash : c = '\\'
      · subst hslash
        cases s with
        | nil =>
          have hopen : ¬ ∃ v, Unquotes ['\\'] v := by
            rintro ⟨_, h⟩
            cases h with
            | plain _ hslash _ => exact hslash rfl
          have hodd : ¬ Even (trailing ['\\']) := by
            decide
          exact iff_of_false hopen hodd
        | cons d s =>
          rw [List.mem_cons, not_or] at hquote
          rw [List.length_cons] at hn
          rw [exists_unquotes_escaped, even_trailing_escaped]
          exact ih s.length (by omega) hquote.2.2 rfl
      · rw [exists_unquotes_plain (Ne.symm hquote.1) hslash, trailing_cons_of_ne hslash]
        exact ih s.length (by omega) hquote.2 rfl

/-! ### Reading a challenge -/

theorem not_mem_of_isWord {c : Char} (h : IsWord s) (hc : Header.isNameChar c = false) : c ∉ s := by
  intro hmem
  rw [h.2 c hmem] at hc
  exact absurd hc (by decide)

/-- Parameters begin with one, which is the only one when nothing follows it. -/
theorem IsParameters.exists_first {parameters : List (List Char × List Char)}
    (h : IsParameters s parameters) :
    ∃ name value v more, s = name ++ '=' :: (value ++ more) ∧ IsWord name ∧ IsValue value v
      ∧ (more = [] → parameters = [(name, v)]) := by
  cases h with
  | @one name value v hname hvalue =>
    refine ⟨name, value, v, [], ?_, hname, hvalue, fun _ => rfl⟩
    rw [List.append_nil]
  | @more name value v separator rest parameters hname hvalue hseparator hrest =>
    refine ⟨name, value, v, separator ++ rest, rfl, hname, hvalue, ?_⟩
    obtain ⟨before, after, rfl, -⟩ := hseparator
    intro hnil
    simp at hnil

/-- Challenges begin with a scheme and a parameter, which are all there is when nothing follows. -/
theorem Reads.exists_first {challenges : List Challenge} (h : Reads s challenges) :
    ∃ scheme spaces name value v more,
      s = scheme ++ ' ' :: (List.replicate spaces ' ' ++ (name ++ '=' :: (value ++ more)))
        ∧ IsWord scheme ∧ IsWord name ∧ IsValue value v
        ∧ (more = [] → challenges = [⟨scheme, [(name, v)]⟩]) := by
  cases h with
  | @one scheme s parameters hscheme spaces hparameters =>
    obtain ⟨name, value, v, more, rfl, hname, hvalue, hall⟩ := hparameters.exists_first
    refine ⟨scheme, spaces, name, value, v, more, rfl, hscheme, hname, hvalue, ?_⟩
    intro hnil
    rw [hall hnil]
  | @more scheme s separator rest parameters challenges hscheme spaces hparameters hseparator _ =>
    obtain ⟨name, value, v, more, rfl, hname, hvalue, -⟩ := hparameters.exists_first
    refine ⟨scheme, spaces, name, value, v, more ++ (separator ++ rest), ?_, hscheme, hname, hvalue,
      ?_⟩
    · simp only [List.append_assoc, List.cons_append]
    · obtain ⟨before, after, rfl, -⟩ := hseparator
      intro hnil
      simp at hnil

/-- A value that begins with a quote ends with the first one behind it, when no other stands in
front of the end. -/
theorem IsValue.of_quote {value url more : List Char} (h : IsValue value v) (hquote : '"' ∉ url)
    (heq : value ++ more = '"' :: (url ++ ['"'])) : more = [] ∧ Unquotes url v := by
  cases h with
  | word hword =>
    obtain ⟨c, cs, rfl⟩ := List.exists_cons_of_ne_nil hword.1
    obtain ⟨rfl, -⟩ := List.cons.inj heq
    exact absurd (hword.2 '"' List.mem_cons_self) (by decide)
  | @quoted body v hbody =>
    rw [List.cons_append, List.append_assoc, List.cons_inj_right] at heq
    rcases List.eq_nil_or_concat more with rfl | ⟨front, c, rfl⟩
    · rw [List.append_nil] at heq
      rw [List.append_cancel_right heq] at hbody
      exact ⟨rfl, hbody⟩
    · -- otherwise the quote that ends the value would stand inside the URL
      rw [List.concat_eq_append, ← List.append_assoc, ← List.append_assoc] at heq
      obtain ⟨hurl, -⟩ := List.append_inj' heq rfl
      have hmem : '"' ∈ url := by
        rw [← hurl]
        simp
      exact absurd hmem hquote

/-- The text of the challenge, part by part. -/
theorem toList_challengeFor (url : String) : (Responder.challengeFor url).toList
    = "Bearer".toList ++ ' ' :: ("realm".toList ++ '=' :: ('"' :: (url.toList ++ ['"']))) := by
  rw [Responder.challengeFor, String.toList_append, String.toList_append, List.append_assoc]
  rfl

/-- The challenge of a URL without quotes reads as the scheme and a realm for which the URL stands,
and in no other way. -/
theorem reads_challengeFor_iff {url : String} (hquote : '"' ∉ url.toList)
    {challenges : List Challenge} : Reads (Responder.challengeFor url).toList challenges
      ↔ ∃ realm, Unquotes url.toList realm ∧ challenges = [bearer realm] := by
  rw [toList_challengeFor]
  have hbearer : IsWord "Bearer".toList :=
    ⟨by decide, List.all_eq_true.1 (by decide)⟩
  have hrealm : IsWord "realm".toList :=
    ⟨by decide, List.all_eq_true.1 (by decide)⟩
  constructor
  · intro h
    obtain ⟨scheme, spaces, name, value, v, more, heq, hscheme, hname, hvalue, hall⟩ :=
      h.exists_first
    -- the scheme ends with the first space, and the name with the first equals sign
    have hcut := Text.cutAt?_eq_some_iff.2 ⟨not_mem_of_isWord hscheme (by decide), heq⟩
    rw [Text.cutAt?_eq_some_iff.2 ⟨not_mem_of_isWord hbearer (by decide), rfl⟩] at hcut
    obtain ⟨hschemeEq, heq⟩ := Prod.mk.inj (Option.some.inj hcut)
    have hspaces : spaces = 0 := by
      cases spaces with
      | zero => rfl
      | succ n => exact absurd (List.cons.inj heq).1 (by decide)
    rw [hspaces, List.replicate_zero, List.nil_append] at heq
    have hcut := Text.cutAt?_eq_some_iff.2 ⟨not_mem_of_isWord hname (by decide), heq⟩
    rw [Text.cutAt?_eq_some_iff.2 ⟨not_mem_of_isWord hrealm (by decide), rfl⟩] at hcut
    obtain ⟨hnameEq, heq⟩ := Prod.mk.inj (Option.some.inj hcut)
    obtain ⟨hmore, hurl⟩ := hvalue.of_quote hquote heq.symm
    refine ⟨v, hurl, ?_⟩
    rw [hall hmore, ← hschemeEq, ← hnameEq]
    rfl
  · rintro ⟨realm, hurl, rfl⟩
    exact .one hbearer 0 (.one hrealm (.quoted hurl))

end Challenge

/-! ### The challenge that settings ask for -/

namespace Responder

open Challenge

/-- A plain URL holds no quote. -/
theorem quote_not_mem_of_isPlainUrl {url : String} (h : Settings.isPlainUrl url = true) :
    '"' ∉ url.toList := by
  intro hmem
  have hplain := List.all_eq_true.1 h _ hmem
  exact absurd hplain (by decide)

/-- The challenge of settings that ask for one can be sent, and reads as the scheme and a realm for
which the URL stands, or not at all; the latter when the URL ends in an odd number of backslashes.
The realm is the URL itself exactly when the URL holds no backslash. -/
theorem challenge_realm_iff {env : Environment} {s : Settings} (hload : Settings.load env = .ok s)
    (hstyle : s.token.rejectionStyle = .challenge) :
    ∃ value, ofSettings s.token = .ok (.challenge value)
      ∧ (Responder.challenge value).response.headers.all "www-authenticate" = [value]
      ∧ (∀ challenges, Reads value.toList challenges
        ↔ ∃ realm, Unquotes s.token.redirectUrl.toList realm ∧ challenges = [bearer realm])
      ∧ ((∃ challenges, Reads value.toList challenges)
        ↔ Even (trailing s.token.redirectUrl.toList))
      ∧ ((∀ challenges, Reads value.toList challenges
          ↔ challenges = [bearer s.token.redirectUrl.toList])
        ↔ '\\' ∉ s.token.redirectUrl.toList) := by
  have hplain : Settings.isPlainUrl s.token.redirectUrl = true :=
    (Settings.tokensReadFrom_of_loadToken (Settings.load_eq_ok_iff.1 hload).token).isPlainUrl
  have hquote := quote_not_mem_of_isPlainUrl hplain
  set url := s.token.redirectUrl with hurl
  refine ⟨challengeFor url, ?_, rfl, fun _ => reads_challengeFor_iff hquote, ?_, ?_⟩
  · have hvalue := Settings.isValue_challengeFor hplain
    unfold ofSettings headerValue
    rw [hstyle, ← hurl]
    dsimp only
    rw [if_pos hvalue]
    rfl
  · rw [← exists_unquotes_iff hquote]
    constructor
    · rintro ⟨challenges, h⟩
      obtain ⟨realm, hrealm, -⟩ := (reads_challengeFor_iff hquote).1 h
      exact ⟨realm, hrealm⟩
    · rintro ⟨realm, hrealm⟩
      exact ⟨_, (reads_challengeFor_iff hquote).2 ⟨realm, hrealm, rfl⟩⟩
  · rw [← unquotes_self_iff hquote]
    constructor
    · intro h
      obtain ⟨realm, hrealm, heq⟩ := (reads_challengeFor_iff hquote).1 ((h _).2 rfl)
      simp only [bearer, List.cons.injEq, Challenge.mk.injEq, Prod.mk.injEq, true_and, and_true]
        at heq
      rw [← heq] at hrealm
      exact hrealm
    · intro hself challenges
      rw [reads_challengeFor_iff hquote]
      constructor
      · rintro ⟨realm, hrealm, rfl⟩
        rw [hrealm.unique hself]
      · rintro rfl
        exact ⟨_, hself, rfl⟩

/-- Variables that ask for a challenge with a URL. -/
def realmVariables (url : String) : Environment := fun name =>
  if name = "JWT_AUTH_NO_TOKEN_STATUS_CODE" then some "401"
  else if name = "JWT_AUTH_NO_TOKEN_REDIRECT_URL" then some url
  else none

/-- The challenge of a login page names it as its realm. -/
theorem challenge_realm_loginPage :
    ∃ s, Settings.load (realmVariables "https://login.example.com/") = .ok s
      ∧ s.token.rejectionStyle = .challenge
      ∧ ∃ value, ofSettings s.token = .ok (.challenge value)
        ∧ ∀ challenges, Reads value.toList challenges
          ↔ challenges = [bearer "https://login.example.com/".toList] := by
  have hload : ∃ s, Settings.load (realmVariables "https://login.example.com/") = .ok s
      ∧ s.token.rejectionStyle = .challenge
      ∧ s.token.redirectUrl = "https://login.example.com/" := ⟨_, rfl, rfl, rfl⟩
  obtain ⟨s, hs, hstyle, hurl⟩ := hload
  obtain ⟨value, hvalue, -, -, -, hreads⟩ := challenge_realm_iff hs hstyle
  rw [hurl] at hreads
  exact ⟨s, hs, hstyle, value, hvalue, hreads.2 (by decide)⟩

/-- Not every accepted URL can be read back: the backslash at the end of one makes a character of
the closing quote. -/
theorem challenge_left_open :
    ∃ s value, Settings.load (realmVariables "https://login.example.com\\") = .ok s
      ∧ s.token.rejectionStyle = .challenge ∧ ofSettings s.token = .ok (.challenge value)
      ∧ ¬ ∃ challenges, Reads value.toList challenges := by
  have hload : ∃ s, Settings.load (realmVariables "https://login.example.com\\") = .ok s
      ∧ s.token.rejectionStyle = .challenge
      ∧ s.token.redirectUrl = "https://login.example.com\\" := ⟨_, rfl, rfl, rfl⟩
  obtain ⟨s, hs, hstyle, hurl⟩ := hload
  refine ⟨s, challengeFor "https://login.example.com\\", hs, hstyle, ?_, ?_⟩
  · have hvalue : Header.isValue (challengeFor "https://login.example.com\\") = true := by
      decide
    unfold ofSettings headerValue
    rw [hstyle, hurl]
    dsimp only
    rw [if_pos hvalue]
    rfl
  · rintro ⟨challenges, h⟩
    obtain ⟨realm, hrealm, -⟩ := (reads_challengeFor_iff (by decide)).1 h
    have heven := (exists_unquotes_iff (by decide)).1 ⟨realm, hrealm⟩
    exact absurd heven (by decide)

end Responder

end AuthGateway
