import AuthGateway.Settings.Basic
import AuthGateway.Telemetry.Log
import AuthGateway.Text.Basic

/-!
# The whitelist

Paths that need no token.  A path is matched with the web prefix taken off, against exact rules and
against rules that name how a path begins.  Empty rules are dropped: an empty beginning would match
every path.
-/

namespace AuthGateway

/-- Rules by beginning and exact rules. -/
structure Whitelist where
  beginnings : List String
  exact : List String
  deriving DecidableEq, Repr

namespace Whitelist

/-- The rules of two lists, without the empty ones. -/
def ofRules (beginnings exact : List String) : Whitelist :=
  ⟨beginnings.filter (· ≠ ""), exact.filter (· ≠ "")⟩

/-- The rules in effect.  Exact rules are only kept where rejections answer 401. -/
def ofSettings (s : TokenSettings) : Whitelist :=
  ofRules s.prefixRules (if s.rejectionStyle.admitsExactRules then s.exactRules else [])

/-- The warning about exact rules that are not kept. -/
def settingsLog (s : TokenSettings) : List LogEntry :=
  if s.rejectionStyle.admitsExactRules || s.exactRules = [] then []
  else
    [{ level := .warn
       target := "edge.auth.gate"
       message := "JWT_AUTH_EXACT_WHITELIST_PATHS is ignored unless "
         ++ "JWT_AUTH_NO_TOKEN_STATUS_CODE is 401"
       fields := [] }]

/-- Whether some rule matches an effective path. -/
def admits (w : Whitelist) (path : List Char) : Bool :=
  w.exact.any (fun rule => rule.toList = path)
    || w.beginnings.any fun rule => Text.beginsWith rule.toList path

end Whitelist

/-- A path with the web prefix taken off, or the path itself when it does not begin with it. -/
def effectivePath (webPrefix path : List Char) : List Char :=
  (Text.after? webPrefix path).getD path

end AuthGateway
