import AuthGateway.Telemetry.Log
import AuthGateway.Telemetry.Metrics
import AuthGateway.Telemetry.Statsd

/-!
# Events

What serving a request does besides answering it, in the order in which it happens.
-/

namespace AuthGateway

/-- The trace of one request. -/
structure Span where
  service : String
  method : String
  path : String
  /-- The status of the response; none when the request broke off. -/
  status : Option Nat
  deriving DecidableEq, Repr

/-- Something that happens. -/
inductive Event where
  | logged (entry : LogEntry)
  /-- The trace of a request is complete. -/
  | traced (span : Span)
  /-- A datagram goes to the statsd agent. -/
  | sent (datagram : String)
  /-- A request enters the metrics. -/
  | observed (observation : Observation)
  /-- A token is put to the verifier. -/
  | checked (token : String)
  deriving DecidableEq, Repr

namespace Event

/-- The observation in an event. -/
def observation? : Event → Option Observation
  | .observed o => some o
  | _ => none

/-- The datagram in an event. -/
def datagram? : Event → Option String
  | .sent d => some d
  | _ => none

/-- The log entry in an event. -/
def entry? : Event → Option LogEntry
  | .logged e => some e
  | _ => none

end Event

/-- The metrics after some events. -/
def Recorder.take (r : Recorder) (events : List Event) : Recorder :=
  (events.filterMap Event.observation?).foldl Recorder.record r

end AuthGateway
