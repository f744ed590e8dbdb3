import AuthGateway.Pipeline.Startup
import AuthGateway.Routing.App

/-!
# Serving requests

A request is routed by its target as it came, and then serves its way through the gates to where the
route leads.  One request follows another: the metrics that one leaves behind are those that the
next one finds.
-/

namespace AuthGateway

/-- When a request is served, and how long that takes. -/
structure Moment where
  /-- In seconds since the epoch. -/
  now : Int
  elapsed : Duration
  deriving DecidableEq, Repr

namespace Pipeline

/-- The stages of the gates, outermost first. -/
def stages (p : Pipeline) : List Stage :=
  p.gates.map Gate.stage

/-- Where a request leads. -/
def destination (p : Pipeline) (app : App) (r : Request) : Destination :=
  app.destination p.webPrefix r.path

/-- Serve one request. -/
def serve (p : Pipeline) (app : App) (c : Conditions) (r : Request) : Reply :=
  let destination := p.destination app r
  let reply := serveThrough c (destination.handler r.method) p.gates r
  { reply with outcome := reply.outcome.mapResponse (destination.finish r.method) }

/-- Serve requests one after the other, with the metrics found at the start; also the metrics at the
end. -/
def run (p : Pipeline) (app : App) (recorder : Recorder) :
    List (Moment × Request) → List Reply × Recorder
  | [] => ([], recorder)
  | (m, r) :: rest =>
    let reply := p.serve app ⟨m.now, m.elapsed, recorder⟩ r
    let (replies, final) := p.run app (recorder.take reply.events) rest
    (reply :: replies, final)

end Pipeline

end AuthGateway
