import AuthGateway.Http.Message
import AuthGateway.Telemetry.Log

/-!
# Faults

Requests that lead nowhere and handlers that fail are answered with a JSON body that gives a code
and a message.  What went wrong inside is logged and not told to the client.
-/

namespace AuthGateway

/-- What went wrong with a request. -/
inductive Fault where
  | notFound (resource : String)
  | internal (detail : String)
  deriving DecidableEq, Repr

namespace Fault

/-- The description for operators. -/
def message : Fault → String
  | .notFound resource => "Not found: " ++ resource
  | .internal detail => "Internal error: " ++ detail

/-- The body of an answer. -/
def body (code message : String) : Json :=
  .object [("error", .object [("code", .string code), ("message", .string message)])]

/-- The answer to the client. -/
def response : Fault → Response
  | .notFound resource => .ofJson 404 (body "NOT_FOUND" resource)
  | .internal _ => .ofJson 500 (body "INTERNAL_ERROR" "An internal error occurred")

/-- The entries logged when a fault is answered. -/
def log : Fault → List LogEntry
  | .notFound _ => []
  | .internal detail =>
    [{ level := .error
       target := "edge.errors"
       message := "Internal error"
       fields := [("error", .text detail)] }]

end Fault

end AuthGateway
