import AuthGateway.Token.SigningMethod

/-!
# Settings

The configuration of the gateway, loaded once and fixed afterwards.
-/

namespace AuthGateway

/-- The redirect statuses. -/
inductive RedirectStatus where
  | movedPermanently
  | found
  | seeOther
  | temporary
  | permanent
  deriving DecidableEq, Repr

/-- The status code. -/
def RedirectStatus.code : RedirectStatus → Nat
  | .movedPermanently => 301
  | .found => 302
  | .seeOther => 303
  | .temporary => 307
  | .permanent => 308

/-- How a request that is turned away is answered. -/
inductive RejectionStyle where
  /-- With status 401 and a challenge to present a token. -/
  | challenge
  /-- With a redirect to the login page. -/
  | redirect (status : RedirectStatus)
  deriving DecidableEq, Repr

namespace RejectionStyle

/-- The style with a given status code. -/
def ofStatus? : Nat → Option RejectionStyle
  | 401 => some .challenge
  | 301 => some (.redirect .movedPermanently)
  | 302 => some (.redirect .found)
  | 303 => some (.redirect .seeOther)
  | 307 => some (.redirect .temporary)
  | 308 => some (.redirect .permanent)
  | _ => none

/-- The status code of the answer. -/
def status : RejectionStyle → Nat
  | .challenge => 401
  | .redirect s => s.code

/-- Exact whitelist rules only count where clients handle the 401 themselves. -/
def admitsExactRules : RejectionStyle → Bool
  | .challenge => true
  | .redirect _ => false

end RejectionStyle

/-- How requests are admitted. -/
structure TokenSettings where
  enabled : Bool
  debug : Bool
  signingMethod : SigningMethod
  /-- The shared secret, or the RSA public key in PEM form. -/
  secret : String
  prefixRules : List String
  exactRules : List String
  cookieName : String
  /-- The name under which the application shows the verified claims. -/
  userProperty : String
  rejectionStyle : RejectionStyle
  /-- Where redirects lead; also the realm of the challenge. -/
  redirectUrl : String
  /-- The group a caller must belong to; empty when none is required. -/
  requiredGroup : String
  /-- By how many seconds the clocks of issuer and gateway may differ. -/
  clockSkew : Nat
  deriving DecidableEq, Repr

/-- Where statsd lines go, and whether requests are traced there. -/
structure StatsdSettings where
  enabled : Bool
  host : String
  port : Nat
  namePrefix : String
  apmEnabled : Bool
  apmPort : Nat
  apmServiceName : String
  deriving DecidableEq, Repr

/-- How Prometheus scrapes the gateway. -/
structure PrometheusSettings where
  enabled : Bool
  /-- The scrape path, which is answered directly and never counted. -/
  path : String
  latencyHistogram : Bool
  deriving DecidableEq, Repr

/-- The whole configuration. -/
structure Settings where
  bindAddress : String
  /-- How many seconds to wait between a request to stop and stopping. -/
  drainSeconds : Nat
  gzipEnabled : Bool
  verboseLogging : Bool
  statsd : StatsdSettings
  prometheus : PrometheusSettings
  newRelicEnabled : Bool
  newRelicAppName : String
  corsEnabled : Bool
  token : TokenSettings
  /-- The base path that is taken off before whitelist rules and routes are matched. -/
  webPrefix : String
  /-- The directory of the static files. -/
  staticDirectory : String
  profilingEnabled : Bool
  deriving DecidableEq, Repr

/-- Requests are traced for New Relic, or for the agent beside the statsd agent. -/
def Settings.apmEnabled (s : Settings) : Bool :=
  s.newRelicEnabled || (s.statsd.enabled && s.statsd.apmEnabled)

end AuthGateway
