import AuthGateway.Telemetry.Log
import AuthGateway.Text.Basic

/-!
# Statsd lines

Counters and timings are sent to an agent, one datagram each, as lines of the form
`name:value|kind|#tag:value,…`.  Values of tags carry request data; the characters that end a
field, a tag or a line are replaced in them, so no request can add a tag of its own.

A datagram that is too long is dropped.
-/

namespace AuthGateway

/-- Why no connection to an agent could be set up. -/
inductive ConnectError where
  /-- The host cannot be looked up at all. -/
  | invalidInput
  /-- The host has no address. -/
  | hostNotFound (host : String)
  | networkUnreachable
  deriving DecidableEq, Repr

/-- The error in messages. -/
def ConnectError.message : ConnectError → String
  | .invalidInput => "file name contained an unexpected NUL byte"
  | .hostNotFound host => "statsd host '" ++ host ++ "' did not resolve"
  | .networkUnreachable => "Network is unreachable (os error 101)"

/-- How the network answers when a host and a port are contacted. -/
abbrev Network := String → Nat → Except ConnectError Unit

/-- What a line measures. -/
inductive Measurement where
  | increment
  | milliseconds (n : Nat)
  deriving DecidableEq, Repr

/-- The value in a line. -/
def Measurement.value : Measurement → Nat
  | .increment => 1
  | .milliseconds n => n

/-- The kind in a line. -/
def Measurement.kind : Measurement → String
  | .increment => "c"
  | .milliseconds _ => "ms"

/-- A client of an agent. -/
structure StatsdClient where
  /-- What every name begins with. -/
  namePrefix : String
  deriving DecidableEq, Repr

namespace StatsdClient

/-- Set up a client.  A host with a null character in it is refused before the network is asked. -/
def connect (network : Network) (host : String) (port : Nat) (namePrefix : String) :
    Except ConnectError StatsdClient := do
  if host.toList.contains '\x00' then throw .invalidInput
  network host port
  return ⟨namePrefix⟩

/-- The entry logged when a client is set up.  The address of the agent is left out. -/
def connectEntry (c : StatsdClient) : LogEntry :=
  { level := .info
    target := "edge.statsd"
    message := "Statsd client connected"
    fields := [("prefix", .text c.namePrefix)] }

/-- A character as it stands in the value of a tag. -/
def tagChar (c : Char) : Char :=
  if c = '|' ∨ c = ',' ∨ c = '#' ∨ Text.isControl c then '_' else c

/-- The value of a tag. -/
def tagValue (s : String) : List Char :=
  s.toList.map tagChar

/-- A tag: its key and its value. -/
def tag (t : String × String) : List Char :=
  t.1.toList ++ ':' :: tagValue t.2

/-- The part of a line that holds the tags; nothing when there are none. -/
def tagPart (tags : List (String × String)) : List Char :=
  if tags = [] then [] else '|' :: '#' :: [','].intercalate (tags.map tag)

/-- A line. -/
def line (c : StatsdClient) (name : String) (m : Measurement) (tags : List (String × String)) :
    List Char :=
  c.namePrefix.toList ++ name.toList ++ ':' :: Nat.toDigits 10 m.value ++ '|' :: m.kind.toList
    ++ tagPart tags

/-- The most bytes of a datagram. -/
def maxDatagram : Nat := 65507

/-- What is sent for a line. -/
def datagrams (line : List Char) : List String :=
  let text := String.ofList line
  if text.utf8ByteSize ≤ maxDatagram then [text] else []

end StatsdClient

end AuthGateway
