import AuthGateway.Files.Site
import AuthGateway.Gate.Admission
import AuthGateway.Http.ContentCoding
import AuthGateway.Http.CrossOrigin
import AuthGateway.Http.Fault
import AuthGateway.Routing.Mount
import AuthGateway.Settings.Stage
import AuthGateway.Telemetry.Profile

/-!
# Gates

A gate is a stage that has been set up.  A request enters it on its way to the application, where
the gate may change it or answer it; what becomes of a request that was let through leaves the gate
on the way back, where the gate may change it again.  What a gate itself answers does not leave
through it, but through the gates outside it.
-/

namespace AuthGateway

/-- A gate. -/
inductive Gate where
  /-- Answers requests whose handler breaks off. -/
  | recovery
  /-- Compresses answers. -/
  | compression
  /-- Shows requests to whoever follows the log of the server; nothing else depends on it. -/
  | verboseLogging
  /-- Sends a count and a time for every answer. -/
  | statsd (client : StatsdClient)
  /-- Answers scrapes, and records every other answer. -/
  | prometheus (path : String) (latency : Bool)
  /-- Traces requests for a service. -/
  | apm (service : String)
  /-- Speaks to browsers about other origins. -/
  | cors
  /-- Lets in whitelisted paths and valid tokens. -/
  | auth (g : TokenGate)
  /-- Lets in members of a group. -/
  | groupClaim (g : GroupGate)
  /-- Answers with static files. -/
  | static (site : Site)
  /-- Answers with pages about the process. -/
  | profiling (profiler : Profiler)
  /-- Takes the web prefix off the target. -/
  | stripPrefix (webPrefix : String)

/-- What surrounds the serving of a request. -/
structure Conditions where
  /-- The time, in seconds since the epoch. -/
  now : Int
  /-- How long the request takes. -/
  elapsed : Duration
  /-- The metrics so far. -/
  recorder : Recorder

/-- What a gate does with a request that enters it: it lets it through, or the request ends here. -/
inductive Passage where
  | forward (r : Request)
  | settled (outcome : Outcome)

/-- The gate answers. -/
def Passage.answer (response : Response) : Passage :=
  .settled (.answered response)

namespace Gate

/-- The stage of a gate. -/
def stage : Gate → Stage
  | .recovery => .recovery
  | .compression => .compression
  | .verboseLogging => .verboseLogging
  | .statsd _ => .statsd
  | .prometheus .. => .prometheus
  | .apm _ => .apm
  | .cors => .cors
  | .auth _ => .auth
  | .groupClaim _ => .groupClaim
  | .static _ => .static
  | .profiling _ => .profiling
  | .stripPrefix _ => .stripPrefix

/-! ### On the way in -/

/-- Carry out a decision. -/
def settle (responder : Responder) (r : Request) : Decision × List Event → Passage × List Event
  | (.ok context, events) => (.forward (r.withContext context), events)
  | (.error reason, events) =>
    (.answer responder.response, events ++ [.logged (responder.rejectionEntry reason r.path)])

/-- The content type of a scrape. -/
def scrapeType : String := "text/plain; version=0.0.4"

/-- The answer to a scrape. -/
def scrape (recorder : Recorder) : Response :=
  ⟨200, [("content-type", scrapeType)], Utf8.encode recorder.render⟩

/-- The answer to a request for the scrape path. -/
def scrapeAnswer? (path : String) (recorder : Recorder) (r : Request) : Option Response :=
  if r.path = path then some (scrape recorder) else none

/-- What the site makes of a request that it has something for. -/
def siteOutcome? (site : Site) (r : Request) : Option Outcome :=
  if Method.asksForPage r.method then
    (site.serverUri? r.uri).map (FileServer.answer site.root (r.method == "HEAD") r.headers)
  else none

/-- Answer a request, or let it through when there is no answer. -/
def answerOr (r : Request) : Option Response → Passage
  | some response => .answer response
  | none => .forward r

/-- What becomes of a request at the gate of the site. -/
def enterSite (site : Site) (r : Request) : Passage :=
  match siteOutcome? site r with
  | some outcome => .settled outcome
  | none => .forward r

/-- A request enters a gate. -/
def enter (c : Conditions) (r : Request) : Gate → Passage × List Event
  | .prometheus path _ => (answerOr r (scrapeAnswer? path c.recorder r), [])
  | .cors => (answerOr r (CrossOrigin.preflight? r), [])
  | .auth g => settle g.responder r (g.decide c.now r)
  | .groupClaim g => settle g.responder r (g.decide r.context)
  | .static site => (enterSite site r, [])
  | .profiling p => (answerOr r (p.page? c.now r.path), [])
  | .stripPrefix webPrefix => (.forward { r with uri := Mount.strip webPrefix r.uri }, [])
  | .recovery | .compression | .verboseLogging | .statsd _ | .apm _ => (.forward r, [])

/-! ### On the way out -/

/-- The answer in the place of a handler that broke off, and what is logged. -/
def recover (p : PanicPayload) : Response × List Event :=
  let fault : Fault := .internal ("panic: " ++ p.describe)
  let entry : LogEntry :=
    { level := .error
      target := "edge.recovery"
      message := "Request handler panicked"
      fields := [] }
  (fault.response, (entry :: fault.log).map .logged)

/-- The name of the counter of answers. -/
def countName : String := "http.requests.count"

/-- The name of the times of answers. -/
def durationName : String := "http.requests.duration"

/-- The greatest number of milliseconds in a line. -/
def maxMilliseconds : Nat := UInt64.size - 1

/-- A duration in whole milliseconds. -/
def milliseconds (d : Duration) : Nat :=
  min (d.seconds * 1000 + d.nanoseconds / 1000000) maxMilliseconds

/-- The datagrams for an answer. -/
def measurements (client : StatsdClient) (elapsed : Duration) (r : Request) (status : Nat) :
    List Event :=
  let tags := [("status", toString status), ("path", r.path), ("method", r.method)]
  let lines := [client.line countName .increment tags,
    client.line durationName (.milliseconds (milliseconds elapsed)) tags]
  (lines.flatMap StatsdClient.datagrams).map .sent

/-- The record of an answer. -/
def observation (latency : Bool) (elapsed : Duration) (r : Request) (status : Nat) : Observation :=
  ⟨⟨status, r.path, r.method⟩, if latency then some elapsed else none⟩

/-- What became of a request, as it entered a gate, leaves the gate. -/
def leave (c : Conditions) (r : Request) (outcome : Outcome) : Gate → Outcome × List Event
  | .recovery =>
    match outcome with
    | .answered _ => (outcome, [])
    | .panicked p => ((.answered (recover p).1), (recover p).2)
  | .compression => (outcome.mapResponse (ContentCoding.apply r.headers), [])
  | .statsd client => (outcome, (outcome.status?.map (measurements client c.elapsed r)).getD [])
  | .prometheus _ latency =>
    (outcome, (outcome.status?.map (.observed <| observation latency c.elapsed r ·)).toList)
  | .apm service => (outcome, [.traced ⟨service, r.method, r.path, outcome.status?⟩])
  | .cors => (outcome.mapResponse (CrossOrigin.expose r), [])
  | .verboseLogging | .auth _ | .groupClaim _ | .static _ | .profiling _ | .stripPrefix _ =>
    (outcome, [])

end Gate

/-! ### Chains of gates -/

/-- What came of a request: what happened, and what is sent to the client. -/
structure Reply where
  events : List Event
  outcome : Outcome
  deriving DecidableEq, Repr

/-- Serve a request through gates, outermost first, and the handler behind them. -/
def serveThrough (c : Conditions) (h : Handler) : List Gate → Request → Reply
  | [], r => ⟨[], h r⟩
  | g :: gates, r =>
    match g.enter c r with
    | (.settled outcome, events) => ⟨events, outcome⟩
    | (.forward r', events) =>
      let inner := serveThrough c h gates r'
      let left := g.leave c r inner.outcome
      ⟨events ++ inner.events ++ left.2, left.1⟩

end AuthGateway
