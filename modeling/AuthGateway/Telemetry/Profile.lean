import AuthGateway.Http.Message
import AuthGateway.Text.Basic

/-!
# Runtime introspection

Three pages about the running process: an index, its arguments, and its identity and uptime.
-/

namespace AuthGateway

/-- The running process. -/
structure ServerInfo where
  arguments : List String
  id : Nat
  /-- How many threads serve requests. -/
  workers : Nat
  deriving DecidableEq, Repr

/-- A process, and when the gateway was set up in it. -/
structure Profiler where
  server : ServerInfo
  /-- In seconds since the epoch. -/
  started : Int
  /-- The same as a text. -/
  startedAt : String
  deriving DecidableEq, Repr

namespace Profiler

/-- What the paths of the pages begin with. -/
def root : String := "/debug/pprof"

/-- The index. -/
def index : String :=
  "/debug/pprof/\n\ncmdline: process command line\nruntime: async runtime statistics\n"

/-- The arguments of the process, null characters between them. -/
def commandLine (p : Profiler) : String :=
  String.intercalate "\x00" p.server.arguments

/-- The identity of the process, and for how many seconds the gateway has been up. -/
def runtime (p : Profiler) (now : Int) : Json :=
  .object [
    ("pid", .ofNat p.server.id),
    ("workers", .ofNat p.server.workers),
    ("started_at", .string p.startedAt),
    ("uptime_seconds", .ofNat (now - p.started).toNat)]

/-- The page for a path. -/
def page? (p : Profiler) (now : Int) (path : String) : Option Response :=
  (Text.after? root.toList path.toList).bind fun rest =>
    match String.ofList rest with
    | "" | "/" => some (.ofText 200 index)
    | "/cmdline" => some (.ofText 200 p.commandLine)
    | "/runtime" => some (.ofJson 200 (p.runtime now))
    | _ => none

end Profiler

end AuthGateway
