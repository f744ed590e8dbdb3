import AuthGateway.Http.Fault
import AuthGateway.Routing.App

/-!
# The edge service

The application behind the gates says that it is there, and tells callers what is known about them.
-/

namespace AuthGateway.Service

/-- The service is there. -/
def health : Handler := fun _ =>
  .answered (.ofJson 200 (.object [("status", .string "healthy")]))

/-- What is known about a caller: whether a token was needed and verified, and, once a decision was
made, the verified claims under the configured name. -/
def caller (context : Option RequestContext) : Json :=
  let flags (whitelisted authenticated : Bool) : List (String × Json) :=
    [("whitelisted", .bool whitelisted), ("authenticated", .bool authenticated)]
  match context with
  | none => .ofBindings (flags false false)
  | some c =>
    .ofBindings (flags c.isWhitelisted c.claims?.isSome
      ++ [(c.userProperty, (c.claims?.map Claims.toJson).getD .null)])

/-- Tell callers what is known about them. -/
def me : Handler := fun r =>
  .answered (.ofJson 200 (caller r.context))

/-- There is nothing else. -/
def notFound : Handler := fun _ =>
  .answered (Fault.notFound "Route not found").response

/-- The application. -/
def app : App where
  routes := [.get "/api/v1/health" health, .get "/api/v1/me" me]
  fallback := some notFound

end AuthGateway.Service
