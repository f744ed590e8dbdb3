import AuthGateway.Settings.Environment

/-!
# Refused settings

The reasons for which an environment is no configuration, with their messages.
-/

namespace AuthGateway

/-- Why an environment was refused. -/
inductive SettingsError where
  /-- A variable does not read as a boolean or an integer. -/
  | variable (cause : VariableError)
  /-- The status for rejected requests is neither 401 nor a redirect. -/
  | rejectionStatus (code : Nat)
  /-- The clock skew exceeds its bound. -/
  | clockSkew (seconds : Nat)
  /-- The redirect URL holds a control character or a quote. -/
  | redirectUrlCharacters
  /-- Rejections redirect, but there is no URL to redirect to. -/
  | redirectUrlMissing
  /-- The name for the verified claims is empty or taken. -/
  | userProperty (name : String)
  /-- The scrape path does not begin with a slash. -/
  | scrapePath (path : String)
  /-- The web prefix does not begin with a slash, or ends with one. -/
  | webPrefix (text : String)
  deriving DecidableEq, Repr

/-- The message shown to the operator. -/
def SettingsError.message : SettingsError → String
  | .variable cause => cause.message
  | .rejectionStatus code =>
    "Invalid JWT_AUTH_NO_TOKEN_STATUS_CODE: must be 401 or a redirect status "
      ++ "(301, 302, 303, 307, 308), got " ++ toString code
  | .clockSkew seconds =>
    "Invalid JWT clock skew configuration: JWT_AUTH_CLOCK_SKEW_SECONDS must not exceed "
      ++ "600 seconds, got " ++ toString seconds
  | .redirectUrlCharacters =>
    "Invalid JWT_AUTH_NO_TOKEN_REDIRECT_URL: must not contain control characters or quotes"
  | .redirectUrlMissing =>
    "Invalid JWT_AUTH_NO_TOKEN_REDIRECT_URL: "
      ++ "must be set when JWT_AUTH_NO_TOKEN_STATUS_CODE is a redirect"
  | .userProperty name =>
    "Invalid JWT_AUTH_USER_PROPERTY: must be non-empty and not one of "
      ++ "[\"whitelisted\", \"authenticated\"], got '" ++ name ++ "'"
  | .scrapePath path =>
    "Invalid PROMETHEUS_PATH: PROMETHEUS_PATH must start with '/', got '" ++ path ++ "'"
  | .webPrefix text =>
    "Invalid WEB_PREFIX: WEB_PREFIX must start with '/' and not end with '/', got '" ++ text ++ "'"

end AuthGateway
