import AuthGateway.Settings.Basic

/-!
# Stages

A request passes through up to twelve stages on its way to the application.  Their order is fixed
by `Stage.all`, outermost first; the settings only choose which of them are there.  Telemetry stands
outside admission, so that rejected requests are observed; the group check stands inside the token
check, whose outcome it reads.
-/

namespace AuthGateway

/-- A place in the chain. -/
inductive Stage where
  | recovery
  | compression
  | verboseLogging
  | statsd
  | prometheus
  | apm
  | cors
  | auth
  | groupClaim
  | static
  | profiling
  | stripPrefix
  deriving DecidableEq, Repr

namespace Stage

/-- All stages, outermost first. -/
def all : List Stage :=
  [recovery, compression, verboseLogging, statsd, prometheus, apm, cors, auth, groupClaim, static,
    profiling, stripPrefix]

/-- The name in logs. -/
def label : Stage → String
  | .recovery => "recovery"
  | .compression => "compression"
  | .verboseLogging => "verbose_logging"
  | .statsd => "statsd"
  | .prometheus => "prometheus"
  | .apm => "apm"
  | .cors => "cors"
  | .auth => "auth"
  | .groupClaim => "group_claim"
  | .static => "static"
  | .profiling => "profiling"
  | .stripPrefix => "strip_prefix"

/-- Whether the settings ask for a stage. -/
def isEnabled (s : Settings) : Stage → Bool
  | .recovery => true
  | .compression => s.gzipEnabled
  | .verboseLogging => s.verboseLogging
  | .statsd => s.statsd.enabled
  | .prometheus => s.prometheus.enabled
  | .apm => s.apmEnabled
  | .cors => s.corsEnabled
  | .auth => s.token.enabled
  | .groupClaim => s.token.requiredGroup != ""
  | .static => true
  | .profiling => s.profilingEnabled
  | .stripPrefix => s.webPrefix != ""

end Stage

/-- The stages that the settings ask for, outermost first. -/
def Settings.stages (s : Settings) : List Stage :=
  Stage.all.filter (Stage.isEnabled s)

end AuthGateway
