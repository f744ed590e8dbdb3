import AuthGateway.Proofs.Control.Steps
import AuthGateway.Settings.Load

/-!
# What loaded settings are like

Loading reads one group of variables after another, and settings that come out have passed every
check on the way (`bind_eq_ok_iff` takes the steps apart).  What they say is what the
variables say, one by one (`Settings.load_eq_ok_iff`, `Settings.tokensReadFrom_of_loadToken`).  A
web prefix that was loaded is empty or a path (`Settings.isWebPrefix_of_load`).  Whoever asks for
tokens and redirects has a URL for it, and the verified claims have a name of their own
(`Settings.tokensChecked_of_load`).
-/

namespace AuthGateway.Settings

theorem eq_true_of_require_eq_ok {condition : Bool} {e : SettingsError} {a : Unit}
    (h : require condition e = .ok a) : condition = true := by
  cases condition with
  | false => exact absurd h (by simp [require])
  | true => rfl

theorem eq_ok_of_checked_eq_ok {α : Type} {x : Except VariableError α} {a : α}
    (h : checked x = .ok a) : x = .ok a := by
  cases x with
  | error e => cases h
  | ok b => rw [Except.ok.inj h]

variable {env : Environment} {s : Settings}

/-! ### What settings say -/

/-- What settings about tokens say is what the variables say. -/
structure TokensReadFrom (env : Environment) (t : TokenSettings) : Prop where
  enabled : env.boolOr "JWT_AUTH_ENABLED" false = .ok t.enabled
  rejectionStyle : loadRejectionStyle env = .ok t.rejectionStyle
  redirectUrl : t.redirectUrl
    = env.stringOr "JWT_AUTH_NO_TOKEN_REDIRECT_URL" "http://localhost:18000/login"
  isPlainUrl : isPlainUrl t.redirectUrl = true
  userProperty : t.userProperty = env.stringOr "JWT_AUTH_USER_PROPERTY" "user"
  clockSkew : env.wordOr 64 "JWT_AUTH_CLOCK_SKEW_SECONDS" 0 = .ok t.clockSkew
  debug : env.boolOr "JWT_AUTH_DEBUG" false = .ok t.debug
  signingMethod : t.signingMethod = .ofTag (signingTag env)
  secret : t.secret = env.stringOr "JWT_AUTH_SECRET" ""
  prefixRules : t.prefixRules = env.listOr "JWT_AUTH_PREFIX_WHITELIST_PATHS" ["/api/v1/health"]
  exactRules : t.exactRules = env.listOr "JWT_AUTH_EXACT_WHITELIST_PATHS" []
  cookieName : t.cookieName = env.stringOr "JWT_AUTH_COOKIE_TOKEN_NAME" "access_token"
  requiredGroup : t.requiredGroup = env.stringOr "JWT_AUTH_REQUIRE_GROUP_CLAIM" ""

theorem tokensReadFrom_of_loadToken {t : TokenSettings} (h : loadToken env = .ok t) :
    TokensReadFrom env t := by
  unfold loadToken at h
  obtain ⟨enabled, henabled, h⟩ := bind_eq_ok_iff.1 h
  obtain ⟨style, hstyle, h⟩ := bind_eq_ok_iff.1 h
  obtain ⟨_, hurl, h⟩ := bind_eq_ok_iff.1 h
  obtain ⟨_, -, h⟩ := bind_eq_ok_iff.1 h
  obtain ⟨_, -, h⟩ := bind_eq_ok_iff.1 h
  obtain ⟨skew, hskew, h⟩ := bind_eq_ok_iff.1 h
  obtain ⟨_, -, h⟩ := bind_eq_ok_iff.1 h
  obtain ⟨debug, hdebug, h⟩ := bind_eq_ok_iff.1 h
  obtain rfl := Except.ok.inj h
  exact {
    enabled := eq_ok_of_checked_eq_ok henabled
    rejectionStyle := hstyle
    redirectUrl := rfl
    isPlainUrl := eq_true_of_require_eq_ok hurl
    userProperty := rfl
    clockSkew := eq_ok_of_checked_eq_ok hskew
    debug := eq_ok_of_checked_eq_ok hdebug
    -- the record is taken apart first, since `rfl` would look a method up for the tag
    signingMethod := by dsimp only
    secret := rfl
    prefixRules := rfl
    exactRules := rfl
    cookieName := rfl
    requiredGroup := rfl }

/-- What settings say is what the variables say. -/
structure ReadFrom (env : Environment) (s : Settings) : Prop where
  bindAddress : s.bindAddress = env.stringOr "BIND_ADDRESS" "0.0.0.0:18000"
  drainSeconds : env.wordOr 64 "SHUTDOWN_DRAIN_SECONDS" 0 = .ok s.drainSeconds
  statsd : loadStatsd env = .ok s.statsd
  prometheus : loadPrometheus env = .ok s.prometheus
  token : loadToken env = .ok s.token
  webPrefix : s.webPrefix = env.stringOr "WEB_PREFIX" ""
  isWebPrefix : isWebPrefix s.webPrefix = true
  gzipEnabled : env.boolOr "MIDDLEWARE_GZIP_ENABLED" true = .ok s.gzipEnabled
  verboseLogging : env.boolOr "MIDDLEWARE_VERBOSE_LOGGER_ENABLED" true = .ok s.verboseLogging
  newRelicEnabled : env.boolOr "NEW_RELIC_ENABLED" false = .ok s.newRelicEnabled
  newRelicAppName : s.newRelicAppName = env.stringOr "NEW_RELIC_APP_NAME" "edge"
  corsEnabled : env.boolOr "CORS_ENABLED" true = .ok s.corsEnabled
  profilingEnabled : env.boolOr "PPROF_ENABLED" false = .ok s.profilingEnabled
  staticDirectory : s.staticDirectory = env.stringOr "WEB_STATIC_DIR" "./browser/dist"

/-- Settings are loaded exactly when they say what the variables say, and the web prefix is one. -/
theorem load_eq_ok_iff : load env = .ok s ↔ ReadFrom env s := by
  constructor
  · intro h
    unfold load at h
    obtain ⟨drainSeconds, hdrain, h⟩ := bind_eq_ok_iff.1 h
    obtain ⟨statsd, hstatsd, h⟩ := bind_eq_ok_iff.1 h
    obtain ⟨prometheus, hprometheus, h⟩ := bind_eq_ok_iff.1 h
    obtain ⟨token, htoken, h⟩ := bind_eq_ok_iff.1 h
    obtain ⟨_, hprefix, h⟩ := bind_eq_ok_iff.1 h
    obtain ⟨gzipEnabled, hgzip, h⟩ := bind_eq_ok_iff.1 h
    obtain ⟨verboseLogging, hverbose, h⟩ := bind_eq_ok_iff.1 h
    obtain ⟨newRelicEnabled, hnewRelic, h⟩ := bind_eq_ok_iff.1 h
    obtain ⟨corsEnabled, hcors, h⟩ := bind_eq_ok_iff.1 h
    obtain ⟨profilingEnabled, hprofiling, h⟩ := bind_eq_ok_iff.1 h
    obtain rfl := Except.ok.inj h
    exact ⟨rfl, eq_ok_of_checked_eq_ok hdrain, hstatsd, hprometheus, htoken, rfl,
      eq_true_of_require_eq_ok hprefix, eq_ok_of_checked_eq_ok hgzip,
      eq_ok_of_checked_eq_ok hverbose, eq_ok_of_checked_eq_ok hnewRelic, rfl,
      eq_ok_of_checked_eq_ok hcors, eq_ok_of_checked_eq_ok hprofiling, rfl⟩
  · intro h
    have hprefix := h.isWebPrefix
    rw [h.webPrefix] at hprefix
    unfold load
    dsimp only
    rw [h.drainSeconds, h.statsd, h.prometheus, h.token, hprefix, h.gzipEnabled, h.verboseLogging,
      h.newRelicEnabled, h.corsEnabled, h.profilingEnabled, ← h.bindAddress, ← h.webPrefix,
      ← h.newRelicAppName, ← h.staticDirectory]
    rfl

/-! ### Tokens -/

/-- What was checked of settings about tokens, beyond the characters of the URL. -/
structure TokensChecked (t : TokenSettings) : Prop where
  redirectUrl : t.enabled = true → t.rejectionStyle ≠ .challenge → t.redirectUrl ≠ ""
  userProperty : t.userProperty ≠ "" ∧ t.userProperty ∉ reservedProperties

theorem tokensChecked_of_load (h : load env = .ok s) : TokensChecked s.token := by
  have htoken := (load_eq_ok_iff.1 h).token
  unfold loadToken at htoken
  obtain ⟨enabled, -, htoken⟩ := bind_eq_ok_iff.1 htoken
  obtain ⟨style, -, htoken⟩ := bind_eq_ok_iff.1 htoken
  obtain ⟨_, -, htoken⟩ := bind_eq_ok_iff.1 htoken
  obtain ⟨_, htarget, htoken⟩ := bind_eq_ok_iff.1 htoken
  obtain ⟨_, hname, htoken⟩ := bind_eq_ok_iff.1 htoken
  obtain ⟨skew, -, htoken⟩ := bind_eq_ok_iff.1 htoken
  obtain ⟨_, -, htoken⟩ := bind_eq_ok_iff.1 htoken
  obtain ⟨debug, -, htoken⟩ := bind_eq_ok_iff.1 htoken
  have htarget := eq_true_of_require_eq_ok htarget
  have hname := eq_true_of_require_eq_ok hname
  rw [← Except.ok.inj htoken]
  constructor
  · intro henabled hstyle
    obtain rfl : enabled = true := henabled
    have hstyle' : (style == .challenge) = false := beq_eq_false_iff_ne.2 hstyle
    simpa [hstyle'] using htarget
  · simpa using hname

/-! ### The web prefix -/

/-- A web prefix is empty, or it begins with a slash and does not end with one. -/
theorem isWebPrefix_of_load (h : load env = .ok s) : isWebPrefix s.webPrefix = true :=
  (load_eq_ok_iff.1 h).isWebPrefix

/-- A web prefix that is not empty begins with a slash. -/
theorem head?_of_isWebPrefix {webPrefix : String} (h : isWebPrefix webPrefix = true)
    (hne : webPrefix ≠ "") : webPrefix.toList.head? = some '/' := by
  have hne' : webPrefix.toList ≠ [] := fun hnil => hne (String.toList_eq_nil_iff.1 hnil)
  simp only [isWebPrefix, Bool.or_eq_true, Bool.and_eq_true, decide_eq_true_eq, beq_iff_eq] at h
  exact (h.resolve_left hne').1

end AuthGateway.Settings
