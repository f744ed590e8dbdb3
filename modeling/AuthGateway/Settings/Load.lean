import AuthGateway.Settings.Basic
import AuthGateway.Settings.Error
import AuthGateway.Text.Basic

/-!
# Loading settings

`Settings.load` reads every variable once, in a fixed order, and gives the settings or the first
reason to refuse them.  Variables that are unset have defaults.
-/

namespace AuthGateway.Settings

/-- Names that the answer about the caller uses for itself. -/
def reservedProperties : List String :=
  ["whitelisted", "authenticated"]

/-- The greatest clock skew: ten minutes. -/
def maxClockSkew : Nat := 600

/-- Turn the refusal of a variable into a refusal of the settings. -/
def checked {α : Type} (r : Except VariableError α) : Except SettingsError α :=
  r.mapError .variable

/-- Refuse with an error unless a condition holds. -/
def require (condition : Bool) (e : SettingsError) : Except SettingsError Unit :=
  if condition then .ok () else .error e

/-- Whether a URL can stand inside the quotes of a challenge. -/
def isPlainUrl (url : String) : Bool :=
  url.toList.all fun c => !Text.isControl c && c != '"'

/-- Whether a text may be a web prefix: empty, or a path that begins with a slash and does not end
with one. -/
def isWebPrefix (text : String) : Bool :=
  text.toList = [] || (text.toList.head? == some '/' && text.toList.getLast? != some '/')

/-- Read the statsd variables. -/
def loadStatsd (env : Environment) : Except SettingsError StatsdSettings := do
  let enabled ← checked (env.boolOr "STATSD_ENABLED" false)
  let port ← checked (env.wordOr 16 "STATSD_PORT" 8125)
  let apmEnabled ← checked (env.boolOr "STATSD_APM_ENABLED" false)
  let apmPort ← checked (env.wordOr 16 "STATSD_APM_PORT" 8126)
  return {
    enabled
    host := env.stringOr "STATSD_HOST" "127.0.0.1"
    port
    namePrefix := env.stringOr "STATSD_PREFIX" "edge."
    apmEnabled
    apmPort
    apmServiceName := env.stringOr "STATSD_APM_SERVICE_NAME" "edge" }

/-- Read the Prometheus variables. -/
def loadPrometheus (env : Environment) : Except SettingsError PrometheusSettings := do
  let enabled ← checked (env.boolOr "PROMETHEUS_ENABLED" false)
  let path := env.stringOr "PROMETHEUS_PATH" "/metrics"
  let latencyHistogram ← checked (env.boolOr "PROMETHEUS_INCLUDE_LATENCY_HISTOGRAM" false)
  require (Text.beginsWith ['/'] path.toList) (.scrapePath path)
  return { enabled, path, latencyHistogram }

/-- Read the status for rejected requests. -/
def loadRejectionStyle (env : Environment) : Except SettingsError RejectionStyle := do
  let code ← checked (env.wordOr 16 "JWT_AUTH_NO_TOKEN_STATUS_CODE" 307)
  match RejectionStyle.ofStatus? code with
  | some style => return style
  | none => throw (.rejectionStatus code)

/-- The tag of the signing method. -/
def signingTag (env : Environment) : String :=
  env.stringOr "JWT_AUTH_SIGNING_METHOD" "HS256"

/-- Read the variables about tokens. -/
def loadToken (env : Environment) : Except SettingsError TokenSettings := do
  let enabled ← checked (env.boolOr "JWT_AUTH_ENABLED" false)
  let rejectionStyle ← loadRejectionStyle env
  let redirectUrl :=
    env.stringOr "JWT_AUTH_NO_TOKEN_REDIRECT_URL" "http://localhost:18000/login"
  require (isPlainUrl redirectUrl) .redirectUrlCharacters
  require (!enabled || rejectionStyle == .challenge || redirectUrl != "") .redirectUrlMissing
  let userProperty := env.stringOr "JWT_AUTH_USER_PROPERTY" "user"
  require (userProperty != "" && !reservedProperties.contains userProperty)
    (.userProperty userProperty)
  let clockSkew ← checked (env.wordOr 64 "JWT_AUTH_CLOCK_SKEW_SECONDS" 0)
  require (clockSkew ≤ maxClockSkew) (.clockSkew clockSkew)
  let debug ← checked (env.boolOr "JWT_AUTH_DEBUG" false)
  return {
    enabled
    debug
    signingMethod := .ofTag (signingTag env)
    secret := env.stringOr "JWT_AUTH_SECRET" ""
    prefixRules := env.listOr "JWT_AUTH_PREFIX_WHITELIST_PATHS" ["/api/v1/health"]
    exactRules := env.listOr "JWT_AUTH_EXACT_WHITELIST_PATHS" []
    cookieName := env.stringOr "JWT_AUTH_COOKIE_TOKEN_NAME" "access_token"
    userProperty
    rejectionStyle
    redirectUrl
    requiredGroup := env.stringOr "JWT_AUTH_REQUIRE_GROUP_CLAIM" ""
    clockSkew }

/-- Read all variables. -/
def load (env : Environment) : Except SettingsError Settings := do
  let drainSeconds ← checked (env.wordOr 64 "SHUTDOWN_DRAIN_SECONDS" 0)
  let statsd ← loadStatsd env
  let prometheus ← loadPrometheus env
  let token ← loadToken env
  let webPrefix := env.stringOr "WEB_PREFIX" ""
  require (isWebPrefix webPrefix) (.webPrefix webPrefix)
  let gzipEnabled ← checked (env.boolOr "MIDDLEWARE_GZIP_ENABLED" true)
  let verboseLogging ← checked (env.boolOr "MIDDLEWARE_VERBOSE_LOGGER_ENABLED" true)
  let newRelicEnabled ← checked (env.boolOr "NEW_RELIC_ENABLED" false)
  let corsEnabled ← checked (env.boolOr "CORS_ENABLED" true)
  let profilingEnabled ← checked (env.boolOr "PPROF_ENABLED" false)
  return {
    bindAddress := env.stringOr "BIND_ADDRESS" "0.0.0.0:18000"
    drainSeconds
    gzipEnabled
    verboseLogging
    statsd
    prometheus
    newRelicEnabled
    newRelicAppName := env.stringOr "NEW_RELIC_APP_NAME" "edge"
    corsEnabled
    token
    webPrefix
    staticDirectory := env.stringOr "WEB_STATIC_DIR" "./browser/dist"
    profilingEnabled }

/-- What is logged while an environment loads. -/
def loadLog (env : Environment) : List LogEntry :=
  SigningMethod.tagLog (signingTag env)

end AuthGateway.Settings
