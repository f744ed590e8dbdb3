import AuthGateway.Gate.Basic
import AuthGateway.Telemetry.Tracer

/-!
# Startup

The settings and the collaborators that were supplied become gates, one for each enabled stage and
in the order of the stages.  What is not supplied is set up here: the connection to the statsd
agent, the recorder of metrics, the verifier of tokens.  The first stage that cannot be set up stops
the startup.
-/

namespace AuthGateway

/-- Why the gateway did not start. -/
inductive StartupError where
  /-- There is no connection to the statsd agent. -/
  | statsd (cause : ConnectError)
  /-- The process has a recorder of metrics already. -/
  | recorderInstalled
  /-- The secret is no key for the signing method. -/
  | keyMaterial (cause : KeyError)
  /-- The redirect URL cannot stand in a field. -/
  | headerValue (cause : HeaderValueError)
  deriving DecidableEq, Repr

/-- The message shown to the operator. -/
def StartupError.message : StartupError → String
  | .statsd cause => "Statsd client error: " ++ cause.message
  | .recorderInstalled =>
    "Metrics recorder error: Failed to install Prometheus recorder: "
      ++ "failed to install exporter as global recorder: "
      ++ "attempted to set a recorder after the metrics system was already initialized"
  | .keyMaterial cause => "Key material unusable: " ++ cause.message
  | .headerValue cause =>
    "Invalid header value for " ++ cause.field ++ ": failed to parse header value"

/-- What may be supplied instead of being set up. -/
structure Collaborators where
  statsd : Option StatsdClient
  recorder : Option Recorder
  judge : Option TokenJudge

/-- Nothing supplied. -/
def Collaborators.none : Collaborators :=
  ⟨.none, .none, .none⟩

/-- What the gateway finds around it when it starts. -/
structure Surroundings where
  network : Network
  /-- Whether the process has a recorder of metrics already. -/
  recorderInstalled : Bool
  /-- The directories on disk, by name. -/
  directory : String → FileTree
  server : ServerInfo
  /-- The time, in seconds since the epoch. -/
  now : Int
  /-- The same as a text. -/
  nowText : String

/-- The gates, and the metrics they start with. -/
structure Pipeline where
  gates : List Gate
  recorder : Recorder
  webPrefix : String

namespace Startup

/-- A step of the startup: what is logged, and what comes of it. -/
abbrev Step (α : Type) := List LogEntry × Except StartupError α

/-- An entry about the startup. -/
def entry (level : LogLevel) (message : String) (fields : List (String × LogValue)) : LogEntry :=
  { level, target := "edge.pipeline", message, fields }

/-! ### Collaborators -/

/-- The client of the statsd agent. -/
def statsdStep (s : Settings) (supplied : Collaborators) (around : Surroundings) :
    Step StatsdClient :=
  match supplied.statsd with
  | some client => ([], .ok client)
  | none =>
    match StatsdClient.connect around.network s.statsd.host s.statsd.port s.statsd.namePrefix with
    | .ok client => ([client.connectEntry], .ok client)
    | .error e => ([], .error (.statsd e))

/-- Whether there is a recorder, or none stands in the way of setting one up. -/
def recorderStep (supplied : Collaborators) (around : Surroundings) : Step Unit :=
  ([], if supplied.recorder.isNone ∧ around.recorderInstalled then .error .recorderInstalled
    else .ok ())

/-- The warning about a shared secret that is empty. -/
def emptySecretLog (s : TokenSettings) : List LogEntry :=
  if s.signingMethod = .hs256 ∧ s.secret = "" then
    [entry .warn "JWT_AUTH_SECRET is empty; HS256 tokens will not verify" []]
  else []

/-- The entry about a verifier that is ready. -/
def readyEntry (s : TokenSettings) : LogEntry :=
  entry .info "Token verifier ready" [("signing_method", .text s.signingMethod.label),
    ("clock_skew_seconds", .number s.clockSkew)]

/-- The verifier over the configured key. -/
def verifierStep (s : TokenSettings) : Step Verifier :=
  let keys := KeyMaterial.resolve s.signingMethod s.secret
  let log := emptySecretLog s ++ keys.resolutionLog
  match keys.key with
  | .ok _ => (log ++ [readyEntry s], .ok ⟨keys, s.clockSkew, s.debug⟩)
  | .error e => (log, .error (.keyMaterial e))

/-- The judge of tokens. -/
def judgeStep (s : TokenSettings) (supplied : Collaborators) : Step TokenJudge :=
  match supplied.judge with
  | some judge => ([], .ok judge)
  | none => (verifierStep s).map id fun r => r.map Verifier.judge

/-- The answer to rejected requests. -/
def responder (s : TokenSettings) : Except StartupError Responder :=
  (Responder.ofSettings s).mapError .headerValue

/-! ### Gates -/

/-- The gate that asks for a token. -/
def tokenGate (s : Settings) (judge : TokenJudge) (responder : Responder) : TokenGate where
  judge := judge
  whitelist := .ofSettings s.token
  responder := responder
  webPrefix := s.webPrefix
  cookieName := s.token.cookieName
  userProperty := s.token.userProperty

/-- Set up the gate that asks for a token. -/
def tokenGateStep (s : Settings) (supplied : Collaborators) : Step TokenGate :=
  match judgeStep s.token supplied with
  | (log, .error e) => (log, .error e)
  | (log, .ok judge) =>
    match responder s.token with
    | .error e => (log, .error e)
    | .ok r => (log ++ Whitelist.settingsLog s.token, .ok (tokenGate s judge r))

/-- The name of the traced service. -/
def serviceName (s : Settings) : String :=
  ((Tracer.ofSettings s).map Tracer.serviceName).getD s.newRelicAppName

/-- Set up the gate of a stage. -/
def gateStep (s : Settings) (supplied : Collaborators) (around : Surroundings) :
    Stage → Step Gate
  | .recovery => ([], .ok .recovery)
  | .compression => ([], .ok .compression)
  | .verboseLogging => ([], .ok .verboseLogging)
  | .statsd => (statsdStep s supplied around).map id fun r => r.map .statsd
  | .prometheus =>
    (recorderStep supplied around).map id fun r =>
      r.map fun _ => .prometheus s.prometheus.path s.prometheus.latencyHistogram
  | .apm => ([], .ok (.apm (serviceName s)))
  | .cors => ([], .ok .cors)
  | .auth => (tokenGateStep s supplied).map id fun r => r.map .auth
  | .groupClaim => ([], (responder s.token).map fun r => .groupClaim ⟨s.token.requiredGroup, r⟩)
  | .static =>
    let site : Site := ⟨s.staticDirectory, around.directory s.staticDirectory, s.webPrefix⟩
    ([], .ok (.static site))
  | .profiling => ([], .ok (.profiling ⟨around.server, around.now, around.nowText⟩))
  | .stripPrefix => ([], .ok (.stripPrefix s.webPrefix))

/-- Set up the gates of some stages, up to the first that cannot be. -/
def gatesStep (s : Settings) (supplied : Collaborators) (around : Surroundings) :
    List Stage → Step (List Gate)
  | [] => ([], .ok [])
  | stage :: stages =>
    match gateStep s supplied around stage with
    | (log, .error e) => (log, .error e)
    | (log, .ok gate) =>
      let (rest, gates) := gatesStep s supplied around stages
      (log ++ rest, gates.map (gate :: ·))

/-! ### The whole -/

/-- The warning about a required group that nobody can be seen to belong to. -/
def groupWithoutTokenLog (stages : List Stage) : List LogEntry :=
  if stages.contains .groupClaim && !stages.contains .auth then
    [entry .warn
      ("JWT_AUTH_REQUIRE_GROUP_CLAIM is set but JWT_AUTH_ENABLED is false; "
        ++ "every request will be rejected") []]
  else []

/-- The entry about a pipeline that is complete. -/
def assembledEntry (stages : List Stage) : LogEntry :=
  entry .info "Pipeline assembled" [("stages", .text (Text.quotedList (stages.map Stage.label)))]

end Startup

/-- Set up the pipeline that the settings ask for. -/
def Pipeline.build (s : Settings) (supplied : Collaborators) (around : Surroundings) :
    Startup.Step Pipeline :=
  let stages := s.stages
  let warning := Startup.groupWithoutTokenLog stages
  match Startup.gatesStep s supplied around stages with
  | (log, .error e) => (warning ++ log, .error e)
  | (log, .ok gates) =>
    (warning ++ log ++ [Startup.assembledEntry stages],
      .ok ⟨gates, supplied.recorder.getD (.empty Recorder.requestBounds), s.webPrefix⟩)

end AuthGateway
