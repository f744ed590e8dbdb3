import AuthGateway.Settings.Basic
import AuthGateway.Telemetry.Log

/-!
# The tracer

Request spans carry the name of a service.  Which agent they are meant for, and under which name,
follows from the settings: the agent beside the statsd agent comes before New Relic.  Starting and
stopping the tracer is logged; nothing is sent to the agent's address.
-/

namespace AuthGateway

/-- The agent that traces are meant for. -/
inductive TraceAgent where
  /-- The trace agent on the statsd host. -/
  | statsd (address : String)
  /-- A New Relic application. -/
  | newRelic
  deriving DecidableEq, Repr

/-- An agent and the name of the traced service. -/
structure Tracer where
  agent : TraceAgent
  serviceName : String
  deriving DecidableEq, Repr

namespace Tracer

/-- The tracer that the settings ask for. -/
def ofSettings (s : Settings) : Option Tracer :=
  if s.statsd.enabled && s.statsd.apmEnabled then
    some ⟨.statsd (s.statsd.host ++ ":" ++ toString s.statsd.apmPort), s.statsd.apmServiceName⟩
  else if s.newRelicEnabled then some ⟨.newRelic, s.newRelicAppName⟩
  else none

/-- The entry logged when the tracer starts. -/
def startEntry (t : Tracer) : LogEntry :=
  match t.agent with
  | .statsd address =>
    { level := .info, target := "edge.apm", message := "APM tracer started"
      fields := [("service", .text t.serviceName), ("agent", .text address)] }
  | .newRelic =>
    { level := .info, target := "edge.apm", message := "New Relic tracer started"
      fields := [("app_name", .text t.serviceName)] }

/-- The entry logged when the tracer stops. -/
def stopEntry (t : Tracer) : LogEntry :=
  { level := .info, target := "edge.apm", message := "APM tracer stopped"
    fields := [("service", .text t.serviceName)] }

end Tracer

end AuthGateway
