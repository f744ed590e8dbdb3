import AuthGateway.Proofs.Settings.Demands

/-!
# Loading is exact

Each group of variables checks its part of the demands (`Demand.checks_loadStatsd`,
`Demand.checks_loadPrometheus`, `Demand.checks_loadToken`), and loading checks them all
(`Demand.checks_load`).  Settings that come out have in every field what the variable of the field
stands for, or its default (`Settings.SaidBy`).  Together this is `Settings.load_exact`.
-/

namespace AuthGateway

open Environment

variable {env : Environment}

/-! ### The status for rejected requests -/

theorem RejectionStyle.ofStatus?_eq_some_iff {code : Nat} {style : RejectionStyle} :
    RejectionStyle.ofStatus? code = some style ↔ style.status = code := by
  constructor
  · intro h
    unfold RejectionStyle.ofStatus? at h
    split at h
    all_goals first
      | rw [← Option.some.inj h]; rfl
      | exact absurd h (by simp)
  · rintro rfl
    cases style with
    | challenge => rfl
    | redirect s => cases s <;> rfl

theorem RejectionStyle.status_mem (style : RejectionStyle) :
    style.status ∈ [401, 301, 302, 303, 307, 308] := by
  cases style with
  | challenge => decide
  | redirect s => cases s <;> decide

theorem RejectionStyle.exists_status {code : Nat} (h : code ∈ [401, 301, 302, 303, 307, 308]) :
    ∃ style : RejectionStyle, style.status = code := by
  simp only [List.mem_cons, List.not_mem_nil, or_false] at h
  rcases h with rfl | rfl | rfl | rfl | rfl | rfl
  · exact ⟨.challenge, rfl⟩
  · exact ⟨.redirect .movedPermanently, rfl⟩
  · exact ⟨.redirect .found, rfl⟩
  · exact ⟨.redirect .seeOther, rfl⟩
  · exact ⟨.redirect .temporary, rfl⟩
  · exact ⟨.redirect .permanent, rfl⟩

/-- Only redirects have the status of a redirect. -/
theorem RejectionStyle.status_mem_redirects_iff (style : RejectionStyle) :
    style.status ∈ [301, 302, 303, 307, 308] ↔ style ≠ .challenge := by
  cases style with
  | challenge => decide
  | redirect s => cases s <;> decide

theorem Settings.hasStatus_of_loadRejectionStyle {style : RejectionStyle}
    (h : Settings.loadRejectionStyle env = .ok style) : Demand.HasStatus env style.status := by
  unfold Settings.loadRejectionStyle at h
  obtain ⟨code, hcode, h⟩ := bind_eq_ok_iff.1 h
  have hread := wordOr_eq_ok_iff.1 (Settings.eq_ok_of_checked_eq_ok hcode)
  split at h
  · rename_i style' hstyle'
    obtain rfl := Except.ok.inj h
    rw [RejectionStyle.ofStatus?_eq_some_iff.1 hstyle']
    exact hread
  · exact absurd h (by simp [throw, throwThe, MonadExceptOf.throw])

/-! ### What each group demands -/

namespace Demand

theorem checks_loadStatsd : Checks env (Settings.loadStatsd env) ofStatsd := by
  unfold Settings.loadStatsd
  refine (checks_boolean ..).bind_cons fun enabled _ => ?_
  refine (checks_natural ..).bind_cons fun port _ => ?_
  refine (checks_boolean ..).bind_cons fun apmEnabled _ => ?_
  refine (checks_natural ..).bind_cons fun apmPort _ => ?_
  exact checks_ok _

/-- The check of the scrape path. -/
theorem beginsWith_slash_iff :
    Text.beginsWith ['/'] (env.stringOr "PROMETHEUS_PATH" "/metrics").toList = true
      ↔ scrapePath.IsMet env := by
  rw [stringOr_eq_getD, Text.beginsWith_iff, IsMet, List.head?_eq_some_iff]
  rfl

theorem checks_loadPrometheus : Checks env (Settings.loadPrometheus env) ofPrometheus := by
  unfold Settings.loadPrometheus
  refine (checks_boolean ..).bind_cons fun enabled _ => ?_
  refine (checks_boolean ..).bind_cons fun latencyHistogram _ => ?_
  refine (checks_require beginsWith_slash_iff rfl).bind_cons fun _ _ => ?_
  exact checks_ok _

theorem checks_loadRejectionStyle :
    Checks env (Settings.loadRejectionStyle env)
      [natural 16 "JWT_AUTH_NO_TOKEN_STATUS_CODE", rejectionStatus] := by
  unfold Settings.loadRejectionStyle
  refine (checks_natural ..).bind_cons fun code hcode => ?_
  have hread : HasStatus env code :=
    wordOr_eq_ok_iff.1 (Settings.eq_ok_of_checked_eq_ok hcode)
  cases hstyle : RejectionStyle.ofStatus? code with
  | some style =>
    refine checks_singleton_ok ?_ style
    intro code' hcode'
    rw [hcode'.unique hread, ← RejectionStyle.ofStatus?_eq_some_iff.1 hstyle]
    exact style.status_mem
  | none =>
    refine checks_error ?_ ⟨code, hread, rfl⟩
    intro hmet
    obtain ⟨style, hstatus⟩ := RejectionStyle.exists_status (hmet code hread)
    rw [RejectionStyle.ofStatus?_eq_some_iff.2 hstatus] at hstyle
    exact absurd hstyle (by simp)

/-- The check of the characters of the redirect URL. -/
theorem isPlainUrl_iff : Settings.isPlainUrl (redirectUrl env) = true ↔ plainUrl.IsMet env := by
  rw [Settings.isPlainUrl, IsMet, List.all_eq_true]
  simp only [Bool.and_eq_true, Bool.not_eq_true', bne_iff_ne]

/-- The check that there is a redirect URL. -/
theorem redirectTarget_iff {enabled : Bool} {style : RejectionStyle}
    (henabled : env.boolOr "JWT_AUTH_ENABLED" false = .ok enabled)
    (hstyle : Settings.loadRejectionStyle env = .ok style) :
    (!enabled || style == .challenge || redirectUrl env != "") = true
      ↔ redirectTarget.IsMet env := by
  have hon : env.Holds Spells "JWT_AUTH_ENABLED" false true ↔ enabled = true := by
    rw [← boolOr_eq_ok_iff, henabled, Except.ok.injEq]
  have hredirects : (∃ code ∈ [301, 302, 303, 307, 308], HasStatus env code)
      ↔ style ≠ .challenge := by
    have hstatus := Settings.hasStatus_of_loadRejectionStyle hstyle
    rw [← style.status_mem_redirects_iff]
    constructor
    · rintro ⟨code, hcode, hread⟩
      rw [hstatus.unique hread]
      exact hcode
    · intro hmem
      exact ⟨style.status, hmem, hstatus⟩
  rw [IsMet, hon, hredirects]
  cases enabled with
  | false => simp
  | true =>
    simp only [Bool.not_true, Bool.false_or, Bool.or_eq_true, beq_iff_eq, bne_iff_ne, true_imp_iff]
    exact Decidable.or_iff_not_imp_left

/-- The check of the name for the verified claims. -/
theorem userProperty_iff :
    (env.stringOr "JWT_AUTH_USER_PROPERTY" "user" != ""
      && !Settings.reservedProperties.contains (env.stringOr "JWT_AUTH_USER_PROPERTY" "user"))
      = true ↔ userProperty.IsMet env := by
  simp [IsMet, stringOr_eq_getD, Settings.reservedProperties]

/-- The check of the clock skew. -/
theorem clockSkew_iff {seconds : Nat} (h : HasSkew env seconds) :
    decide (seconds ≤ Settings.maxClockSkew) = true ↔ clockSkew.IsMet env := by
  rw [decide_eq_true_eq, IsMet]
  constructor
  · intro hle seconds' h'
    rw [h'.unique h]
    exact hle
  · intro hmet
    exact hmet seconds h

theorem checks_loadToken : Checks env (Settings.loadToken env) ofToken := by
  unfold Settings.loadToken
  refine (checks_boolean ..).bind_cons fun enabled henabled => ?_
  refine checks_loadRejectionStyle.bind fun style hstyle => ?_
  have htarget := redirectTarget_iff (Settings.eq_ok_of_checked_eq_ok henabled) hstyle
  refine (checks_require isPlainUrl_iff rfl).bind_cons fun _ _ => ?_
  refine (checks_require htarget rfl).bind_cons fun _ _ => ?_
  refine (checks_require userProperty_iff rfl).bind_cons fun _ _ => ?_
  refine (checks_natural ..).bind_cons fun seconds hseconds => ?_
  have hskew : HasSkew env seconds :=
    wordOr_eq_ok_iff.1 (Settings.eq_ok_of_checked_eq_ok hseconds)
  refine (checks_require (clockSkew_iff hskew) ⟨seconds, hskew, rfl⟩).bind_cons fun _ _ => ?_
  refine (checks_boolean ..).bind_cons fun debug _ => ?_
  exact checks_ok _

/-- The check of the web prefix. -/
theorem isWebPrefix_iff :
    Settings.isWebPrefix (env.stringOr "WEB_PREFIX" "") = true ↔ webPrefix.IsMet env := by
  simp [IsMet, stringOr_eq_getD, Settings.isWebPrefix]

/-- Loading checks all demands in their order. -/
theorem checks_load : Checks env (Settings.load env) order := by
  unfold Settings.load
  refine (checks_natural ..).bind_cons fun drainSeconds _ => ?_
  refine checks_loadStatsd.bind fun statsd _ => ?_
  refine checks_loadPrometheus.bind fun prometheus _ => ?_
  refine checks_loadToken.bind fun token _ => ?_
  refine (checks_require isWebPrefix_iff rfl).bind_cons fun _ _ => ?_
  refine (checks_boolean ..).bind_cons fun gzipEnabled _ => ?_
  refine (checks_boolean ..).bind_cons fun verboseLogging _ => ?_
  refine (checks_boolean ..).bind_cons fun newRelicEnabled _ => ?_
  refine (checks_boolean ..).bind_cons fun corsEnabled _ => ?_
  refine (checks_boolean ..).bind_cons fun profilingEnabled _ => ?_
  exact checks_ok _

end Demand

/-! ### What each field says -/

namespace Settings

/-- Whether every field of the statsd settings has the value of its variable, or its default. -/
structure StatsdSaidBy (env : Environment) (s : StatsdSettings) : Prop where
  enabled : env.Holds Spells "STATSD_ENABLED" false s.enabled
  host : s.host = (env "STATSD_HOST").getD "127.0.0.1"
  port : env.Holds (Writes 16) "STATSD_PORT" 8125 s.port
  namePrefix : s.namePrefix = (env "STATSD_PREFIX").getD "edge."
  apmEnabled : env.Holds Spells "STATSD_APM_ENABLED" false s.apmEnabled
  apmPort : env.Holds (Writes 16) "STATSD_APM_PORT" 8126 s.apmPort
  apmServiceName : s.apmServiceName = (env "STATSD_APM_SERVICE_NAME").getD "edge"

/-- Whether every field of the Prometheus settings has the value of its variable, or its default. -/
structure PrometheusSaidBy (env : Environment) (s : PrometheusSettings) : Prop where
  enabled : env.Holds Spells "PROMETHEUS_ENABLED" false s.enabled
  path : s.path = (env "PROMETHEUS_PATH").getD "/metrics"
  latencyHistogram :
    env.Holds Spells "PROMETHEUS_INCLUDE_LATENCY_HISTOGRAM" false s.latencyHistogram

/-- Whether a tag names the signing method with RSA keys, in any letter case and between any
blanks. -/
def IsRsaTag (tag : String) : Prop :=
  ∃ word, Text.IsCore Text.isBlank word tag.toList
    ∧ String.ofList (word.map Char.toUpper) = "RS256"

/-- Whether every field of the settings about tokens has the value of its variable, or its default.
A tag that names no signing method counts as the default. -/
structure TokenSaidBy (env : Environment) (s : TokenSettings) : Prop where
  enabled : env.Holds Spells "JWT_AUTH_ENABLED" false s.enabled
  debug : env.Holds Spells "JWT_AUTH_DEBUG" false s.debug
  signingMethod : s.signingMethod = .rs256
    ↔ IsRsaTag ((env "JWT_AUTH_SIGNING_METHOD").getD "HS256")
  secret : s.secret = (env "JWT_AUTH_SECRET").getD ""
  prefixRules : env.Holds Lists "JWT_AUTH_PREFIX_WHITELIST_PATHS" ["/api/v1/health"] s.prefixRules
  exactRules : env.Holds Lists "JWT_AUTH_EXACT_WHITELIST_PATHS" [] s.exactRules
  cookieName : s.cookieName = (env "JWT_AUTH_COOKIE_TOKEN_NAME").getD "access_token"
  userProperty : s.userProperty = (env "JWT_AUTH_USER_PROPERTY").getD "user"
  rejectionStyle : env.Holds (Writes 16) "JWT_AUTH_NO_TOKEN_STATUS_CODE" 307 s.rejectionStyle.status
  redirectUrl : s.redirectUrl
    = (env "JWT_AUTH_NO_TOKEN_REDIRECT_URL").getD "http://localhost:18000/login"
  requiredGroup : s.requiredGroup = (env "JWT_AUTH_REQUIRE_GROUP_CLAIM").getD ""
  clockSkew : env.Holds (Writes 64) "JWT_AUTH_CLOCK_SKEW_SECONDS" 0 s.clockSkew

/-- Whether every field has the value of its variable, or its default. -/
structure SaidBy (env : Environment) (s : Settings) : Prop where
  bindAddress : s.bindAddress = (env "BIND_ADDRESS").getD "0.0.0.0:18000"
  drainSeconds : env.Holds (Writes 64) "SHUTDOWN_DRAIN_SECONDS" 0 s.drainSeconds
  gzipEnabled : env.Holds Spells "MIDDLEWARE_GZIP_ENABLED" true s.gzipEnabled
  verboseLogging : env.Holds Spells "MIDDLEWARE_VERBOSE_LOGGER_ENABLED" true s.verboseLogging
  statsd : StatsdSaidBy env s.statsd
  prometheus : PrometheusSaidBy env s.prometheus
  newRelicEnabled : env.Holds Spells "NEW_RELIC_ENABLED" false s.newRelicEnabled
  newRelicAppName : s.newRelicAppName = (env "NEW_RELIC_APP_NAME").getD "edge"
  corsEnabled : env.Holds Spells "CORS_ENABLED" true s.corsEnabled
  token : TokenSaidBy env s.token
  webPrefix : s.webPrefix = (env "WEB_PREFIX").getD ""
  staticDirectory : s.staticDirectory = (env "WEB_STATIC_DIR").getD "./browser/dist"
  profilingEnabled : env.Holds Spells "PPROF_ENABLED" false s.profilingEnabled

theorem statsdSaidBy_of_loadStatsd {s : StatsdSettings} (h : loadStatsd env = .ok s) :
    StatsdSaidBy env s := by
  unfold loadStatsd at h
  obtain ⟨enabled, henabled, h⟩ := bind_eq_ok_iff.1 h
  obtain ⟨port, hport, h⟩ := bind_eq_ok_iff.1 h
  obtain ⟨apmEnabled, hapmEnabled, h⟩ := bind_eq_ok_iff.1 h
  obtain ⟨apmPort, hapmPort, h⟩ := bind_eq_ok_iff.1 h
  obtain rfl := Except.ok.inj h
  exact {
    enabled := boolOr_eq_ok_iff.1 (eq_ok_of_checked_eq_ok henabled)
    host := rfl
    port := wordOr_eq_ok_iff.1 (eq_ok_of_checked_eq_ok hport)
    namePrefix := rfl
    apmEnabled := boolOr_eq_ok_iff.1 (eq_ok_of_checked_eq_ok hapmEnabled)
    apmPort := wordOr_eq_ok_iff.1 (eq_ok_of_checked_eq_ok hapmPort)
    apmServiceName := rfl }

theorem prometheusSaidBy_of_loadPrometheus {s : PrometheusSettings}
    (h : loadPrometheus env = .ok s) : PrometheusSaidBy env s := by
  unfold loadPrometheus at h
  obtain ⟨enabled, henabled, h⟩ := bind_eq_ok_iff.1 h
  obtain ⟨latencyHistogram, hlatency, h⟩ := bind_eq_ok_iff.1 h
  obtain ⟨_, -, h⟩ := bind_eq_ok_iff.1 h
  obtain rfl := Except.ok.inj h
  exact {
    enabled := boolOr_eq_ok_iff.1 (eq_ok_of_checked_eq_ok henabled)
    path := rfl
    latencyHistogram := boolOr_eq_ok_iff.1 (eq_ok_of_checked_eq_ok hlatency) }

/-- A tag selects RSA keys by their name in capitals. -/
theorem ofTag_eq_rs256_iff (tag : String) : SigningMethod.ofTag tag = .rs256 ↔ IsRsaTag tag := by
  unfold IsRsaTag
  rw [Text.exists_isCore_iff]
  show SigningMethod.ofTag tag = .rs256 ↔ SigningMethod.normalTag tag = "RS256"
  rw [SigningMethod.ofTag, SigningMethod.named?, List.find?_cons, List.find?_cons]
  by_cases hhs : SigningMethod.normalTag tag = "HS256"
  · simp [hhs, SigningMethod.label]
  · by_cases hrs : SigningMethod.normalTag tag = "RS256"
    · simp [hrs, SigningMethod.label]
    · simp [hhs, hrs, SigningMethod.label]

theorem tokenSaidBy_of_loadToken {s : TokenSettings} (h : loadToken env = .ok s) :
    TokenSaidBy env s := by
  have hread := tokensReadFrom_of_loadToken h
  exact {
    enabled := boolOr_eq_ok_iff.1 hread.enabled
    debug := boolOr_eq_ok_iff.1 hread.debug
    signingMethod := by
      rw [hread.signingMethod]
      exact ofTag_eq_rs256_iff _
    secret := hread.secret
    prefixRules := listOr_eq_iff.1 hread.prefixRules.symm
    exactRules := listOr_eq_iff.1 hread.exactRules.symm
    cookieName := hread.cookieName
    userProperty := hread.userProperty
    rejectionStyle := hasStatus_of_loadRejectionStyle hread.rejectionStyle
    redirectUrl := hread.redirectUrl
    requiredGroup := hread.requiredGroup
    clockSkew := wordOr_eq_ok_iff.1 hread.clockSkew }

theorem saidBy_of_load {s : Settings} (h : load env = .ok s) : SaidBy env s := by
  have hread := load_eq_ok_iff.1 h
  exact {
    bindAddress := hread.bindAddress
    drainSeconds := wordOr_eq_ok_iff.1 hread.drainSeconds
    gzipEnabled := boolOr_eq_ok_iff.1 hread.gzipEnabled
    verboseLogging := boolOr_eq_ok_iff.1 hread.verboseLogging
    statsd := statsdSaidBy_of_loadStatsd hread.statsd
    prometheus := prometheusSaidBy_of_loadPrometheus hread.prometheus
    newRelicEnabled := boolOr_eq_ok_iff.1 hread.newRelicEnabled
    newRelicAppName := hread.newRelicAppName
    corsEnabled := boolOr_eq_ok_iff.1 hread.corsEnabled
    token := tokenSaidBy_of_loadToken hread.token
    webPrefix := hread.webPrefix
    staticDirectory := hread.staticDirectory
    profilingEnabled := boolOr_eq_ok_iff.1 hread.profilingEnabled }

/-- Loading succeeds just where all demands are met, it fails with the error about the first that is
not, and every field of the settings has the value of its variable, or its default. -/
theorem load_exact (env : Environment) :
    ((∃ s, load env = .ok s) ↔ ∀ d ∈ Demand.order, d.IsMet env)
      ∧ (∀ e, load env = .error e
          ↔ ∃ d, Demand.IsFirstUnmet env Demand.order d ∧ d.Blames env e)
      ∧ ∀ s, load env = .ok s → SaidBy env s :=
  ⟨Demand.checks_load.exists_ok_iff, fun _ => Demand.checks_load.eq_error_iff,
    fun _ => saidBy_of_load⟩

end Settings

end AuthGateway
