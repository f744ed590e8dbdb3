import AuthGateway.Proofs.Settings.Load

/-!
# Variables that only concern diagnostics

Telemetry and logging have variables of their own (`Environment.isDiagnostic`).  Each part of the
settings is read from its own variables, so where two environments agree on all others, the settings
loaded from them agree on everything else (`Settings.sameService_of_load`).
-/

namespace AuthGateway

namespace Environment

/-- Whether a variable only says what is measured, traced or logged. -/
def isDiagnostic (name : String) : Bool :=
  ["STATSD_", "NEW_RELIC_", "PROMETHEUS_"].any (fun lead =>
      Text.beginsWith lead.toList name.toList)
    || ["MIDDLEWARE_VERBOSE_LOGGER_ENABLED", "JWT_AUTH_DEBUG"].contains name

variable {env₁ env₂ : Environment} {name : String}

/-! ### One variable decides -/

theorem stringOr_congr (h : env₁ name = env₂ name) (default : String) :
    env₁.stringOr name default = env₂.stringOr name default := by
  unfold stringOr
  rw [h]

theorem boolOr_congr (h : env₁ name = env₂ name) (default : Bool) :
    env₁.boolOr name default = env₂.boolOr name default := by
  unfold boolOr
  rw [h]

theorem listOr_congr (h : env₁ name = env₂ name) (default : List String) :
    env₁.listOr name default = env₂.listOr name default := by
  unfold listOr
  rw [h]

theorem wordOr_congr (h : env₁ name = env₂ name) (bits default : Nat) :
    env₁.wordOr bits name default = env₂.wordOr bits name default := by
  unfold wordOr integerOr
  rw [h]

end Environment

namespace Settings

/-- Whether settings only differ in what is measured, traced or logged. -/
structure SameService (s₁ s₂ : Settings) : Prop where
  gzipEnabled : s₁.gzipEnabled = s₂.gzipEnabled
  corsEnabled : s₁.corsEnabled = s₂.corsEnabled
  token : s₁.token = { s₂.token with debug := s₁.token.debug }
  webPrefix : s₁.webPrefix = s₂.webPrefix
  staticDirectory : s₁.staticDirectory = s₂.staticDirectory
  profilingEnabled : s₁.profilingEnabled = s₂.profilingEnabled

variable {env₁ env₂ : Environment}

/-- What is read alike is the same. -/
theorem eq_of_eq_ok {ε α : Type} {x₁ x₂ : Except ε α} {a₁ a₂ : α} (h : x₁ = x₂)
    (h₁ : x₁ = .ok a₁) (h₂ : x₂ = .ok a₂) : a₁ = a₂ :=
  Except.ok.inj (h₁.symm.trans (h.trans h₂))

/-- The variables about tokens but one decide what the settings about tokens say. -/
theorem token_eq_of_tokensReadFrom {t₁ t₂ : TokenSettings}
    (henv : ∀ name, Environment.isDiagnostic name = false → env₁ name = env₂ name)
    (h₁ : TokensReadFrom env₁ t₁) (h₂ : TokensReadFrom env₂ t₂) :
    t₁ = { t₂ with debug := t₁.debug } := by
  have henabled := eq_of_eq_ok (Environment.boolOr_congr (henv _ (by decide)) _)
    h₁.enabled h₂.enabled
  have hstyle : loadRejectionStyle env₁ = loadRejectionStyle env₂ := by
    unfold loadRejectionStyle
    rw [Environment.wordOr_congr (henv _ (by decide))]
  have hskew := eq_of_eq_ok (Environment.wordOr_congr (henv _ (by decide)) _ _)
    h₁.clockSkew h₂.clockSkew
  have hmethod : signingTag env₁ = signingTag env₂ :=
    Environment.stringOr_congr (henv _ (by decide)) _
  have htext {name : String} {default : String} {a₁ a₂ : String}
      (hname : Environment.isDiagnostic name = false) (ha₁ : a₁ = env₁.stringOr name default)
      (ha₂ : a₂ = env₂.stringOr name default) : a₁ = a₂ := by
    rw [ha₁, ha₂, Environment.stringOr_congr (henv name hname)]
  have hlist {name : String} {default a₁ a₂ : List String}
      (hname : Environment.isDiagnostic name = false) (ha₁ : a₁ = env₁.listOr name default)
      (ha₂ : a₂ = env₂.listOr name default) : a₁ = a₂ := by
    rw [ha₁, ha₂, Environment.listOr_congr (henv name hname)]
  have hsigning : t₁.signingMethod = t₂.signingMethod := by
    rw [h₁.signingMethod, h₂.signingMethod, hmethod]
  have hsecret := htext (by decide) h₁.secret h₂.secret
  have hprefixes := hlist (by decide) h₁.prefixRules h₂.prefixRules
  have hexact := hlist (by decide) h₁.exactRules h₂.exactRules
  have hcookie := htext (by decide) h₁.cookieName h₂.cookieName
  have hproperty := htext (by decide) h₁.userProperty h₂.userProperty
  have hurl := htext (by decide) h₁.redirectUrl h₂.redirectUrl
  have hgroup := htext (by decide) h₁.requiredGroup h₂.requiredGroup
  have hrejection := eq_of_eq_ok hstyle h₁.rejectionStyle h₂.rejectionStyle
  cases t₁
  cases t₂
  rw [TokenSettings.mk.injEq]
  exact ⟨henabled, rfl, hsigning, hsecret, hprefixes, hexact, hcookie, hproperty, hrejection, hurl,
    hgroup, hskew⟩

/-- Environments that agree on everything but diagnostics ask for the same service. -/
theorem sameService_of_load {s₁ s₂ : Settings}
    (henv : ∀ name, Environment.isDiagnostic name = false → env₁ name = env₂ name)
    (h₁ : load env₁ = .ok s₁) (h₂ : load env₂ = .ok s₂) : SameService s₁ s₂ := by
  have hread₁ := load_eq_ok_iff.1 h₁
  have hread₂ := load_eq_ok_iff.1 h₂
  constructor
  · exact eq_of_eq_ok (Environment.boolOr_congr (henv _ (by decide)) _)
      hread₁.gzipEnabled hread₂.gzipEnabled
  · exact eq_of_eq_ok (Environment.boolOr_congr (henv _ (by decide)) _)
      hread₁.corsEnabled hread₂.corsEnabled
  · exact token_eq_of_tokensReadFrom henv (tokensReadFrom_of_loadToken hread₁.token)
      (tokensReadFrom_of_loadToken hread₂.token)
  · rw [hread₁.webPrefix, hread₂.webPrefix, Environment.stringOr_congr (henv _ (by decide))]
  · rw [hread₁.staticDirectory, hread₂.staticDirectory,
      Environment.stringOr_congr (henv _ (by decide))]
  · exact eq_of_eq_ok (Environment.boolOr_congr (henv _ (by decide)) _)
      hread₁.profilingEnabled hread₂.profilingEnabled

end Settings

end AuthGateway
