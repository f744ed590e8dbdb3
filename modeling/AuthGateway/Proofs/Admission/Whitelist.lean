import AuthGateway.Admission.Whitelist
import AuthGateway.Proofs.Settings.Exactness
import AuthGateway.Proofs.Text.Blank

/-!
# What the whitelist admits

A rule is a piece of a list variable that is not blank, trimmed (`Whitelist.IsRule`); the rules of
loaded settings without the empty ones are just these (`Whitelist.mem_filter_listOr_iff`).  Rules
are matched against what is left of a path without the web prefix (`Whitelist.IsEffective`).  So the
text of the variables decides which paths need no token (`Whitelist.opens_iff`).
-/

namespace AuthGateway

/-! ### Blank texts -/

namespace Text

/-- A text begins with another just where the other is a prefix of it. -/
theorem beginsWith_iff_isPrefix {lead s : List Char} : beginsWith lead s = true ↔ lead <+: s := by
  rw [beginsWith_iff]
  constructor
  · rintro ⟨rest, rfl⟩
    exact List.prefix_append lead rest
  · rintro ⟨rest, rfl⟩
    exact ⟨rest, rfl⟩

end Text

namespace Whitelist

open Environment

variable {env : Environment} {s : TokenSettings} {webPrefix path eff : List Char}

/-! ### Rules -/

/-- Whether a list holds a rule: one of the pieces between its commas is not blank, and the rule is
that piece, trimmed. -/
def IsRule (text : String) (rule : List Char) : Prop :=
  ∃ piece, Text.IsPiece ',' piece text.toList ∧ (∃ c ∈ piece, Text.isBlank c = false)
    ∧ Text.trim piece = rule

/-- The rules about how a path begins. -/
def IsPrefixRule (env : Environment) (rule : List Char) : Prop :=
  IsRule ((env "JWT_AUTH_PREFIX_WHITELIST_PATHS").getD "/api/v1/health") rule

/-- The rules about whole paths. -/
def IsExactRule (env : Environment) (rule : List Char) : Prop :=
  IsRule ((env "JWT_AUTH_EXACT_WHITELIST_PATHS").getD "") rule

theorem mem_readList_iff {text : String} {rule : List Char} :
    rule ∈ readList text.toList ∧ rule ≠ [] ↔ IsRule text rule := by
  have hblank (piece : List Char) :
      Text.trim piece ≠ [] ↔ ∃ c ∈ piece, Text.isBlank c = false := by
    rw [Ne, Text.trim_eq_nil_iff]
    simp only [not_forall, exists_prop, Bool.not_eq_true]
  unfold readList
  by_cases htext : text.toList = []
  · rw [if_pos htext]
    constructor
    · rintro ⟨hmem, -⟩
      exact absurd hmem List.not_mem_nil
    · rintro ⟨piece, hpiece, ⟨c, hc, -⟩, -⟩
      obtain ⟨-, front, back, hwhole, -⟩ := hpiece
      rw [htext] at hwhole
      have hnil : piece = [] := by simp_all
      rw [hnil] at hc
      exact absurd hc List.not_mem_nil
  · rw [if_neg htext, List.mem_map]
    constructor
    · rintro ⟨⟨piece, hpiece, rfl⟩, hne⟩
      exact ⟨piece, Text.mem_splitOn_iff.1 hpiece, (hblank piece).1 hne, rfl⟩
    · rintro ⟨piece, hpiece, hvisible, rfl⟩
      exact ⟨⟨piece, Text.mem_splitOn_iff.2 hpiece, rfl⟩, (hblank piece).2 hvisible⟩

/-- The default of a list variable is what its default text lists. -/
theorem listOr_eq_readList {name default : String} {rules : List String}
    (h : rules = (readList default.toList).map String.ofList) :
    env.listOr name rules = (readList ((env name).getD default).toList).map String.ofList := by
  unfold listOr
  cases env name with
  | none => exact h
  | some text => rfl

/-- The rules that are kept are those that the text of the variable holds. -/
theorem mem_filter_listOr_iff {name default rule : String} {rules : List String}
    (h : rules = (readList default.toList).map String.ofList) :
    rule ∈ (env.listOr name rules).filter (· ≠ "")
      ↔ IsRule ((env name).getD default) rule.toList := by
  rw [listOr_eq_readList h, ← mem_readList_iff, List.mem_filter, List.mem_map, decide_eq_true_eq,
    Ne, Ne, String.toList_eq_nil_iff]
  refine and_congr_left fun _ => ?_
  constructor
  · rintro ⟨piece, hpiece, rfl⟩
    rw [String.toList_ofList]
    exact hpiece
  · intro hrule
    exact ⟨rule.toList, hrule, String.ofList_toList⟩

/-! ### Paths as rules see them -/

/-- Whether a text is what the rules are matched against: the path without the web prefix in front
of it, or the path as it is where it does not begin with the prefix. -/
def IsEffective (webPrefix path eff : List Char) : Prop :=
  path = webPrefix ++ eff ∨ (¬ webPrefix <+: path ∧ eff = path)

theorem isEffective_iff : IsEffective webPrefix path eff ↔ effectivePath webPrefix path = eff := by
  unfold IsEffective effectivePath
  cases hafter : Text.after? webPrefix path with
  | some rest =>
    obtain rfl := Text.after?_eq_some_iff.1 hafter
    rw [Option.getD_some]
    constructor
    · rintro (h | ⟨h, -⟩)
      · exact List.append_cancel_left h
      · exact absurd (List.prefix_append webPrefix rest) h
    · rintro rfl
      exact Or.inl rfl
  | none =>
    have hno : ¬ webPrefix <+: path := by
      rintro ⟨rest, hrest⟩
      rw [Text.after?_eq_some_iff.2 hrest.symm] at hafter
      exact absurd hafter (by simp)
    rw [Option.getD_none]
    constructor
    · rintro (h | ⟨-, h⟩)
      · exact absurd ⟨eff, h.symm⟩ hno
      · exact h.symm
    · intro h
      exact Or.inr ⟨hno, h.symm⟩

/-- Whether the variables let a path in without a token: the path as rules see it begins with a
rule, or it is a rule of the other list and rejections answer 401. -/
def IsOpenPath (env : Environment) (path : List Char) : Prop :=
  ∃ eff, IsEffective ((env "WEB_PREFIX").getD "").toList path eff
    ∧ ((∃ rule, IsPrefixRule env rule ∧ rule <+: eff)
      ∨ (Demand.HasStatus env 401 ∧ IsExactRule env eff))

/-- Whether other variables hold the rules of some, and let them count where they did. -/
structure Covers (env wider : Environment) : Prop where
  webPrefix : (env "WEB_PREFIX").getD "" = (wider "WEB_PREFIX").getD ""
  status : Demand.HasStatus env 401 → Demand.HasStatus wider 401
  prefixRules : ∀ rule, IsPrefixRule env rule → IsPrefixRule wider rule
  exactRules : ∀ rule, IsExactRule env rule → IsExactRule wider rule

/-- More rules let in more paths. -/
theorem IsOpenPath.of_covers {env' : Environment} (h : IsOpenPath env path)
    (hcovers : Covers env env') : IsOpenPath env' path := by
  obtain ⟨eff, heff, hrule⟩ := h
  rw [hcovers.webPrefix] at heff
  refine ⟨eff, heff, ?_⟩
  rcases hrule with ⟨rule, hrule, hbegins⟩ | ⟨hstatus, hrule⟩
  · exact Or.inl ⟨rule, hcovers.prefixRules rule hrule, hbegins⟩
  · exact Or.inr ⟨hcovers.status hstatus, hcovers.exactRules eff hrule⟩

/-! ### The decision -/

/-- Whether settings let in a path without a token. -/
def opens (s : Settings) (path : List Char) : Bool :=
  (ofSettings s.token).admits (effectivePath s.webPrefix.toList path)

theorem admits_iff {w : Whitelist} :
    w.admits path = true
      ↔ (∃ rule ∈ w.beginnings, rule.toList <+: path) ∨ ∃ rule ∈ w.exact, rule.toList = path := by
  rw [admits, Bool.or_eq_true, List.any_eq_true, List.any_eq_true, or_comm]
  simp only [decide_eq_true_eq, Text.beginsWith_iff_isPrefix]

theorem admitsExactRules_iff
    (h : Settings.loadRejectionStyle env = .ok s.rejectionStyle) :
    s.rejectionStyle.admitsExactRules = true ↔ Demand.HasStatus env 401 := by
  have hstatus := Settings.hasStatus_of_loadRejectionStyle h
  have hcode : Demand.HasStatus env 401 ↔ s.rejectionStyle.status = 401 := by
    constructor
    · intro h401
      exact hstatus.unique h401
    · intro heq
      rw [heq] at hstatus
      exact hstatus
  rw [hcode]
  cases s.rejectionStyle with
  | challenge => decide
  | redirect status => cases status <;> decide

/-- Loaded settings let in what the variables let in. -/
theorem opens_iff {s : Settings} (hload : Settings.load env = .ok s) :
    opens s path = true ↔ IsOpenPath env path := by
  have hread := Settings.load_eq_ok_iff.1 hload
  have h := Settings.tokensReadFrom_of_loadToken hread.token
  have hbeginningsDefault :
      ["/api/v1/health"] = (readList "/api/v1/health".toList).map String.ofList := by decide
  have hexactDefault : [] = (readList "".toList).map String.ofList := by decide
  have hbeginnings (rule : String) :
      rule ∈ (ofSettings s.token).beginnings ↔ IsPrefixRule env rule.toList := by
    rw [IsPrefixRule, ← mem_filter_listOr_iff hbeginningsDefault, ← h.prefixRules]
    rfl
  have hexact (rule : String) : rule ∈ (ofSettings s.token).exact
      ↔ Demand.HasStatus env 401 ∧ IsExactRule env rule.toList := by
    rw [← admitsExactRules_iff h.rejectionStyle, IsExactRule,
      ← mem_filter_listOr_iff hexactDefault, ← h.exactRules, ofSettings, ofRules]
    by_cases hadmits : s.token.rejectionStyle.admitsExactRules = true
    · rw [if_pos hadmits]
      exact (and_iff_right hadmits).symm
    · rw [if_neg hadmits]
      simp [hadmits]
  -- there is just one text that the rules are matched against
  unfold IsOpenPath
  simp only [isEffective_iff, exists_eq_left']
  rw [opens, hread.webPrefix, stringOr_eq_getD, admits_iff]
  constructor
  · rintro (⟨rule, hrule, hbegins⟩ | ⟨rule, hrule, heq⟩)
    · exact Or.inl ⟨rule.toList, (hbeginnings rule).1 hrule, hbegins⟩
    · rw [← heq]
      exact Or.inr ((hexact rule).1 hrule)
  · rintro (⟨rule, hrule, hbegins⟩ | hrule)
    · refine Or.inl ⟨String.ofList rule, (hbeginnings _).2 ?_, ?_⟩
      · rw [String.toList_ofList]
        exact hrule
      · rw [String.toList_ofList]
        exact hbegins
    · refine Or.inr ⟨String.ofList _, (hexact _).2 ?_, String.toList_ofList⟩
      rw [String.toList_ofList]
      exact hrule

end Whitelist

end AuthGateway
