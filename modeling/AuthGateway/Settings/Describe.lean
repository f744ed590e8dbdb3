import AuthGateway.Settings.Basic
import AuthGateway.Text.Quoted

/-!
# Describing settings

A one-line description of the whole configuration for logs.  The secret is never part of it: a
fixed text stands in its place.
-/

namespace AuthGateway

open Text

/-- The name of a method in descriptions. -/
def SigningMethod.describe : SigningMethod → String
  | .hs256 => "Hs256"
  | .rs256 => "Rs256"

/-- The name of a style in descriptions. -/
def RejectionStyle.describe : RejectionStyle → String
  | .challenge => "Challenge"
  | .redirect s => "Redirect(" ++ toString s.code ++ ")"

/-- What stands in the place of the secret. -/
def redacted : String := "[REDACTED]"

/-- The description of the settings about tokens, the secret left out. -/
def TokenSettings.describe (s : TokenSettings) : String :=
  described "JwtAuthConfig" [
    ("enabled", toString s.enabled),
    ("debug", toString s.debug),
    ("signing_method", s.signingMethod.describe),
    ("secret", quoted redacted),
    ("prefix_whitelist_paths", quotedList s.prefixRules),
    ("exact_whitelist_paths", quotedList s.exactRules),
    ("cookie_token_name", quoted s.cookieName),
    ("user_property", quoted s.userProperty),
    ("no_token_behavior", s.rejectionStyle.describe),
    ("no_token_redirect_url", quoted s.redirectUrl),
    ("require_group_claim", quoted s.requiredGroup),
    ("clock_skew_seconds", toString s.clockSkew)]

/-- The description of the statsd settings. -/
def StatsdSettings.describe (s : StatsdSettings) : String :=
  described "StatsdConfig" [
    ("enabled", toString s.enabled),
    ("host", quoted s.host),
    ("port", toString s.port),
    ("prefix", quoted s.namePrefix),
    ("apm_enabled", toString s.apmEnabled),
    ("apm_port", toString s.apmPort),
    ("apm_service_name", quoted s.apmServiceName)]

/-- The description of the Prometheus settings. -/
def PrometheusSettings.describe (s : PrometheusSettings) : String :=
  described "PrometheusConfig" [
    ("enabled", toString s.enabled),
    ("path", quoted s.path),
    ("include_latency_histogram", toString s.latencyHistogram)]

/-- The description of all settings, every field in its place. -/
def Settings.describe (s : Settings) : String :=
  described "Config" [
    ("bind_address", quoted s.bindAddress),
    ("shutdown_drain_seconds", toString s.drainSeconds),
    ("gzip_enabled", toString s.gzipEnabled),
    ("verbose_logger_enabled", toString s.verboseLogging),
    ("statsd", s.statsd.describe),
    ("prometheus", s.prometheus.describe),
    ("new_relic_enabled", toString s.newRelicEnabled),
    ("new_relic_app_name", quoted s.newRelicAppName),
    ("cors_enabled", toString s.corsEnabled),
    ("jwt", s.token.describe),
    ("web_prefix", quoted s.webPrefix),
    ("web_static_dir", quoted s.staticDirectory),
    ("pprof_enabled", toString s.profilingEnabled)]

end AuthGateway
