import AuthGateway.Proofs.Settings.Load
import AuthGateway.Proofs.Settings.Variables

/-!
# What loading demands

Loading makes a fixed list of demands on the variables (`Demand.order`).  Every step of it checks a
few of them (`Demand.Checks`), and steps one after another check their demands one after another
(`Demand.Checks.bind`).  So an environment is refused over the first demand that it does not meet,
one that meets them all is loaded, and then the settings say what the variables say
(`Settings.load_exact`).
-/

namespace AuthGateway

open Environment

/-! ### Demands -/

/-- A demand that loading makes on the variables. -/
inductive Demand where
  /-- A variable that is set spells a boolean. -/
  | boolean (name : String)
  /-- A variable that is set writes a natural number of so many bits. -/
  | natural (bits : Nat) (name : String)
  /-- The scrape path begins with a slash. -/
  | scrapePath
  /-- Rejected requests get a challenge or a redirect. -/
  | rejectionStatus
  /-- The redirect URL can stand inside quotes. -/
  | plainUrl
  /-- Where rejections redirect, there is a URL to redirect to. -/
  | redirectTarget
  /-- The name for the verified claims is neither empty nor taken. -/
  | userProperty
  /-- The clock skew is at most ten minutes. -/
  | clockSkew
  /-- The web prefix is empty, or a path that does not end with a slash. -/
  | webPrefix
  deriving DecidableEq, Repr

namespace Demand

/-- The URL that rejections redirect to. -/
def redirectUrl (env : Environment) : String :=
  (env "JWT_AUTH_NO_TOKEN_REDIRECT_URL").getD "http://localhost:18000/login"

/-- Whether a number is the status for rejected requests. -/
def HasStatus (env : Environment) (code : Nat) : Prop :=
  env.Holds (Writes 16) "JWT_AUTH_NO_TOKEN_STATUS_CODE" 307 code

/-- Whether a number is the clock skew. -/
def HasSkew (env : Environment) (seconds : Nat) : Prop :=
  env.Holds (Writes 64) "JWT_AUTH_CLOCK_SKEW_SECONDS" 0 seconds

/-- Whether the variables meet a demand. -/
def IsMet (env : Environment) : Demand → Prop
  | boolean name => ∀ text, env name = some text → ∃ b, Spells text b
  | natural bits name => ∀ text, env name = some text → ∃ n, Writes bits text n
  | scrapePath => ((env "PROMETHEUS_PATH").getD "/metrics").toList.head? = some '/'
  | rejectionStatus => ∀ code, HasStatus env code → code ∈ [401, 301, 302, 303, 307, 308]
  | plainUrl => ∀ c ∈ (redirectUrl env).toList, Text.isControl c = false ∧ c ≠ '"'
  | redirectTarget => env.Holds Spells "JWT_AUTH_ENABLED" false true →
      (∃ code ∈ [301, 302, 303, 307, 308], HasStatus env code) → redirectUrl env ≠ ""
  | userProperty =>
    (env "JWT_AUTH_USER_PROPERTY").getD "user" ∉ ["", "whitelisted", "authenticated"]
  | clockSkew => ∀ seconds, HasSkew env seconds → seconds ≤ 600
  | webPrefix => (env "WEB_PREFIX").getD "" = ""
      ∨ (((env "WEB_PREFIX").getD "").toList.head? = some '/'
        ∧ ((env "WEB_PREFIX").getD "").toList.getLast? ≠ some '/')

/-- Whether an error is the one about a demand. -/
def Blames (env : Environment) : Demand → SettingsError → Prop
  | boolean name, e => ∃ text, env name = some text ∧ e = .variable (.invalidBool name text)
  | natural _ name, e => ∃ text, env name = some text ∧ e = .variable (.invalidInteger name text)
  | scrapePath, e => e = .scrapePath ((env "PROMETHEUS_PATH").getD "/metrics")
  | rejectionStatus, e => ∃ code, HasStatus env code ∧ e = .rejectionStatus code
  | plainUrl, e => e = .redirectUrlCharacters
  | redirectTarget, e => e = .redirectUrlMissing
  | userProperty, e => e = .userProperty ((env "JWT_AUTH_USER_PROPERTY").getD "user")
  | clockSkew, e => ∃ seconds, HasSkew env seconds ∧ e = .clockSkew seconds
  | webPrefix, e => e = .webPrefix ((env "WEB_PREFIX").getD "")

/-! ### The order of the demands -/

/-- The demands on the statsd variables. -/
def ofStatsd : List Demand :=
  [boolean "STATSD_ENABLED", natural 16 "STATSD_PORT", boolean "STATSD_APM_ENABLED",
    natural 16 "STATSD_APM_PORT"]

/-- The demands on the Prometheus variables. -/
def ofPrometheus : List Demand :=
  [boolean "PROMETHEUS_ENABLED", boolean "PROMETHEUS_INCLUDE_LATENCY_HISTOGRAM", scrapePath]

/-- The demands on the variables about tokens. -/
def ofToken : List Demand :=
  [boolean "JWT_AUTH_ENABLED", natural 16 "JWT_AUTH_NO_TOKEN_STATUS_CODE", rejectionStatus,
    plainUrl, redirectTarget, userProperty, natural 64 "JWT_AUTH_CLOCK_SKEW_SECONDS", clockSkew,
    boolean "JWT_AUTH_DEBUG"]

/-- All demands, in the order in which they are checked. -/
def order : List Demand :=
  natural 64 "SHUTDOWN_DRAIN_SECONDS" :: (ofStatsd ++ (ofPrometheus ++ (ofToken ++
    [webPrefix, boolean "MIDDLEWARE_GZIP_ENABLED", boolean "MIDDLEWARE_VERBOSE_LOGGER_ENABLED",
      boolean "NEW_RELIC_ENABLED", boolean "CORS_ENABLED", boolean "PPROF_ENABLED"])))

/-- Whether a demand is the first in a list that is not met. -/
def IsFirstUnmet (env : Environment) (ds : List Demand) (d : Demand) : Prop :=
  ∃ before after, ds = before ++ d :: after ∧ (∀ d' ∈ before, d'.IsMet env) ∧ ¬ d.IsMet env

variable {env : Environment} {d d₁ d₂ : Demand} {ds ds' : List Demand} {e e₁ e₂ : SettingsError}

/-- Demands that are met do not matter. -/
theorem IsFirstUnmet.append (h : IsFirstUnmet env ds' d) (hmet : ∀ d' ∈ ds, d'.IsMet env) :
    IsFirstUnmet env (ds ++ ds') d := by
  obtain ⟨before, after, rfl, hbefore, hunmet⟩ := h
  refine ⟨ds ++ before, after, (List.append_assoc ..).symm, ?_, hunmet⟩
  intro d' hd'
  rcases List.mem_append.1 hd' with hd' | hd'
  · exact hmet d' hd'
  · exact hbefore d' hd'

/-- What comes behind an unmet demand does not matter. -/
theorem IsFirstUnmet.append_right (h : IsFirstUnmet env ds d) (ds' : List Demand) :
    IsFirstUnmet env (ds ++ ds') d := by
  obtain ⟨before, after, rfl, hbefore, hunmet⟩ := h
  exact ⟨before, after ++ ds', List.append_assoc .., hbefore, hunmet⟩

theorem IsFirstUnmet.not_forall (h : IsFirstUnmet env ds d) : ¬ ∀ d' ∈ ds, d'.IsMet env := by
  obtain ⟨before, after, rfl, -, hunmet⟩ := h
  intro hmet
  exact hunmet (hmet d (List.mem_append_right _ List.mem_cons_self))

theorem IsFirstUnmet.unique (h₁ : IsFirstUnmet env ds d₁) (h₂ : IsFirstUnmet env ds d₂) :
    d₁ = d₂ := by
  obtain ⟨before₁, after₁, rfl, hbefore₁, hunmet₁⟩ := h₁
  obtain ⟨before₂, after₂, heq, hbefore₂, hunmet₂⟩ := h₂
  -- where one of them stands further back, the other is among the demands before it
  rcases List.append_eq_append_iff.1 heq with ⟨gap, rfl, hgap⟩ | ⟨gap, rfl, hgap⟩
  · cases gap with
    | nil => exact (List.cons.inj hgap).1
    | cons d' gap =>
      obtain ⟨rfl, -⟩ := List.cons.inj hgap
      exact absurd (hbefore₂ _ (List.mem_append_right _ List.mem_cons_self)) hunmet₁
  · cases gap with
    | nil => exact (List.cons.inj hgap).1.symm
    | cons d' gap =>
      obtain ⟨rfl, -⟩ := List.cons.inj hgap
      exact absurd (hbefore₁ _ (List.mem_append_right _ List.mem_cons_self)) hunmet₂

theorem HasStatus.unique {code₁ code₂ : Nat} (h₁ : HasStatus env code₁)
    (h₂ : HasStatus env code₂) : code₁ = code₂ :=
  Except.ok.inj ((wordOr_eq_ok_iff.2 h₁).symm.trans (wordOr_eq_ok_iff.2 h₂))

theorem HasSkew.unique {seconds₁ seconds₂ : Nat} (h₁ : HasSkew env seconds₁)
    (h₂ : HasSkew env seconds₂) : seconds₁ = seconds₂ :=
  Except.ok.inj ((wordOr_eq_ok_iff.2 h₁).symm.trans (wordOr_eq_ok_iff.2 h₂))

/-- There is one error about a demand. -/
theorem Blames.unique (h₁ : d.Blames env e₁) (h₂ : d.Blames env e₂) : e₁ = e₂ := by
  cases d with
  | boolean name =>
    obtain ⟨text₁, htext₁, rfl⟩ := h₁
    obtain ⟨text₂, htext₂, rfl⟩ := h₂
    rw [Option.some.inj (htext₁.symm.trans htext₂)]
  | natural bits name =>
    obtain ⟨text₁, htext₁, rfl⟩ := h₁
    obtain ⟨text₂, htext₂, rfl⟩ := h₂
    rw [Option.some.inj (htext₁.symm.trans htext₂)]
  | rejectionStatus =>
    obtain ⟨code₁, hcode₁, rfl⟩ := h₁
    obtain ⟨code₂, hcode₂, rfl⟩ := h₂
    rw [hcode₁.unique hcode₂]
  | clockSkew =>
    obtain ⟨seconds₁, hseconds₁, rfl⟩ := h₁
    obtain ⟨seconds₂, hseconds₂, rfl⟩ := h₂
    rw [hseconds₁.unique hseconds₂]
  | scrapePath | plainUrl | redirectTarget | userProperty | webPrefix => exact h₁.trans h₂.symm

/-! ### Steps that check demands -/

variable {α β : Type} {x : Except SettingsError α} {f : α → Except SettingsError β}

/-- Whether a step of loading checks some demands: it succeeds only where all of them are met, and
it fails over the first that is not. -/
def Checks (env : Environment) (x : Except SettingsError α) (ds : List Demand) : Prop :=
  match x with
  | .ok _ => ∀ d ∈ ds, d.IsMet env
  | .error e => ∃ d, IsFirstUnmet env ds d ∧ d.Blames env e

/-- A step that always succeeds. -/
theorem checks_ok (a : α) : Checks env (.ok a) [] := by
  intro d hd
  exact absurd hd List.not_mem_nil

/-- Two steps check their demands one after another. -/
theorem Checks.bind (hx : Checks env x ds) (hf : ∀ a, x = .ok a → Checks env (f a) ds') :
    Checks env (x >>= f) (ds ++ ds') := by
  cases x with
  | error e =>
    obtain ⟨d, hd, hblames⟩ := hx
    exact ⟨d, hd.append_right ds', hblames⟩
  | ok a =>
    have hnext : Checks env (f a) ds' := hf a rfl
    show Checks env (f a) (ds ++ ds')
    cases hfa : f a with
    | error e =>
      rw [hfa] at hnext
      obtain ⟨d, hd, hblames⟩ := hnext
      exact ⟨d, hd.append hx, hblames⟩
    | ok b =>
      rw [hfa] at hnext
      intro d hd
      rcases List.mem_append.1 hd with hd | hd
      · exact hx d hd
      · exact hnext d hd

/-- A step that checks one demand, and another one. -/
theorem Checks.bind_cons (hx : Checks env x [d]) (hf : ∀ a, x = .ok a → Checks env (f a) ds) :
    Checks env (x >>= f) (d :: ds) :=
  hx.bind hf

/-- A step succeeds just where its demands are met. -/
theorem Checks.exists_ok_iff (h : Checks env x ds) :
    (∃ a, x = .ok a) ↔ ∀ d ∈ ds, d.IsMet env := by
  cases x with
  | ok a => exact ⟨fun _ => h, fun _ => ⟨a, rfl⟩⟩
  | error e =>
    obtain ⟨d, hd, -⟩ := h
    constructor
    · rintro ⟨a, ha⟩
      exact absurd ha (by simp)
    · intro hmet
      exact absurd hmet hd.not_forall

/-- A step fails with the error about the first demand that is not met. -/
theorem Checks.eq_error_iff (h : Checks env x ds) :
    x = .error e ↔ ∃ d, IsFirstUnmet env ds d ∧ d.Blames env e := by
  cases x with
  | ok a =>
    constructor
    · intro heq
      exact absurd heq (by simp)
    · rintro ⟨d, hd, -⟩
      exact absurd h hd.not_forall
  | error e' =>
    constructor
    · intro heq
      rw [← Except.error.inj heq]
      exact h
    · rintro ⟨d, hd, hblames⟩
      obtain ⟨d', hd', hblames'⟩ := h
      obtain rfl := hd.unique hd'
      rw [hblames'.unique hblames]

/-! ### The steps of loading -/

theorem checks_error (hunmet : ¬ d.IsMet env) (hblames : d.Blames env e) :
    Checks env (.error e : Except SettingsError α) [d] :=
  ⟨d, ⟨[], [], rfl, fun _ h => absurd h List.not_mem_nil, hunmet⟩, hblames⟩

theorem checks_singleton_ok (hmet : d.IsMet env) (a : α) : Checks env (.ok a) [d] := by
  intro d' hd'
  rw [List.mem_singleton.1 hd']
  exact hmet

theorem checks_require {condition : Bool} (hmet : condition = true ↔ d.IsMet env)
    (hblames : d.Blames env e) : Checks env (Settings.require condition e) [d] := by
  cases condition with
  | false => exact checks_error (fun h => absurd (hmet.2 h) Bool.false_ne_true) hblames
  | true => exact checks_singleton_ok (hmet.1 rfl) ()

/-- Reading a variable checks that its text, if there is one, stands for a value. -/
theorem checks_variable {read : Except VariableError α} {reads : String → α → Prop}
    {cause : String → VariableError} {name : String} {default : α}
    (hok : ∀ a, read = .ok a ↔ env.Holds reads name default a)
    (herror : ∀ e, read = .error e → ∃ text, env name = some text ∧ e = cause text)
    (hmet : d.IsMet env ↔ ∀ text, env name = some text → ∃ a, reads text a)
    (hblames : ∀ text, env name = some text → d.Blames env (.variable (cause text))) :
    Checks env (Settings.checked read) [d] := by
  cases hread : read with
  | ok a =>
    refine checks_singleton_ok (hmet.2 ?_) a
    intro text htext
    have hholds := (hok a).1 hread
    rw [Holds, htext] at hholds
    exact ⟨a, hholds⟩
  | error e =>
    obtain ⟨text, htext, rfl⟩ := herror e hread
    refine checks_error ?_ (hblames text htext)
    intro hd
    obtain ⟨a, ha⟩ := hmet.1 hd text htext
    have hholds : env.Holds reads name default a := by
      rw [Holds, htext]
      exact ha
    exact absurd (((hok a).2 hholds).symm.trans hread) (by simp)

theorem checks_boolean (name : String) (default : Bool) :
    Checks env (Settings.checked (env.boolOr name default)) [boolean name] :=
  checks_variable (fun _ => boolOr_eq_ok_iff) (fun _ => exists_of_boolOr_eq_error) Iff.rfl
    fun text htext => ⟨text, htext, rfl⟩

theorem checks_natural (bits : Nat) (name : String) (default : Nat) :
    Checks env (Settings.checked (env.wordOr bits name default)) [natural bits name] :=
  checks_variable (fun _ => wordOr_eq_ok_iff) (fun _ => exists_of_wordOr_eq_error) Iff.rfl
    fun text htext => ⟨text, htext, rfl⟩

end Demand

end AuthGateway
