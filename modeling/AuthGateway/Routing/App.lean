import AuthGateway.Http.Outcome
import AuthGateway.Routing.Pattern

/-!
# Applications

An application is a table of routes, and it may have a handler for everything else.  A route has a
handler for each of its methods; the head of a page is made by the handler of the page.

An application can be mounted below a web prefix.  Its routes then lie below the prefix, the root
route at the prefix itself, and so does its handler for everything else; what lies outside, and the
prefix with a slash behind it, leads nowhere.
-/

namespace AuthGateway

/-- A route: its pattern, as a text, and its handlers by method. -/
structure Route where
  pattern : String
  handlers : List (String × Handler)

/-- An application. -/
structure App where
  routes : List Route
  fallback : Option Handler

/-- Where the target of a request leads. -/
inductive Destination where
  | route (r : Route)
  | fallback (h : Handler)
  | nowhere

namespace Route

/-- A route that can only be read. -/
def get (pattern : String) (h : Handler) : Route :=
  ⟨pattern, [("GET", h)]⟩

/-- The handler of a method. -/
def handler? (r : Route) (method : String) : Option Handler :=
  (r.handlers.lookup method).or (if method = "HEAD" then r.handlers.lookup "GET" else none)

/-- The methods that a handler's method stands for. -/
def allowedBy (method : String) : List String :=
  if method = "GET" then ["GET", "HEAD"] else [method]

/-- The methods of a route, as a field lists them. -/
def allow (r : Route) : String :=
  String.intercalate "," (r.handlers.flatMap fun h => allowedBy h.1)

/-- The pattern below a web prefix. -/
def mounted (webPrefix : String) (r : Route) : Pattern :=
  Pattern.ofText (if r.pattern = "/" ∧ webPrefix ≠ "" then webPrefix else webPrefix ++ r.pattern)

end Route

namespace App

/-- The route for a path below a web prefix. -/
def route? (a : App) (webPrefix path : String) : Option Route :=
  let candidates := a.routes.filter fun r => (r.mounted webPrefix).admits path
  candidates.foldl
    (fun best r =>
      match best with
      | none => some r
      | some b => if (r.mounted webPrefix).precedes (b.mounted webPrefix) then some r else some b)
    none

/-- Whether a path lies below a web prefix. -/
def isBelow (webPrefix path : String) : Bool :=
  webPrefix = "" || (Pattern.ofText webPrefix).admits path
    || (Pattern.ofText (webPrefix ++ "/*rest")).admits path

/-- Where a path leads. -/
def destination (a : App) (webPrefix path : String) : Destination :=
  match a.route? webPrefix path with
  | some r => .route r
  | none =>
    match a.fallback with
    | some h => if isBelow webPrefix path then .fallback h else .nowhere
    | none => .nowhere

end App

namespace Destination

/-- What answers a request of some method. -/
def handler (method : String) : Destination → Handler
  | .route r => (r.handler? method).getD fun _ => .answered (.empty 405)
  | .fallback h => h
  | .nowhere => fun _ => .answered (.empty 404)

/-- The last touch to a response.  A route leaves the body off the head of a page, and lists its
methods to clients that used another one. -/
def finish (method : String) (d : Destination) (response : Response) : Response :=
  match d with
  | .route r =>
    if (r.handler? method).isNone then
      if response.headers.has "allow" then response else response.add "allow" r.allow
    else if method = "HEAD" then { response with body := [] }
    else response
  | _ => response

end Destination

end AuthGateway
