import AuthGateway.Http.Message
import AuthGateway.Http.Request
import AuthGateway.Text.Basic
import AuthGateway.Text.Letters

/-!
# Content coding

Answers are compressed with gzip for clients that accept it at least as gladly as plain content.
Short bodies, parts of files, pictures, streams of events and content that already has a coding are
left alone.

How glad a client is of a coding is its weight, in thousandths.  Entries with a weight that does not
read, and entries for other codings, are passed over; without an entry a coding is not accepted.
-/

namespace AuthGateway.ContentCoding

/-! ### What clients accept -/

/-- The codings that make a difference. -/
inductive Coding where
  | gzip
  | identity
  deriving DecidableEq, Repr

/-- Read the name of a coding. -/
def Coding.ofName? (s : List Char) : Option Coding :=
  if Text.eqIgnoringCase s "gzip".toList ∨ Text.eqIgnoringCase s "x-gzip".toList then some .gzip
  else if Text.eqIgnoringCase s "identity".toList then some .identity
  else none

/-- The value of up to three digits behind the point, in thousandths. -/
def fraction? (digits : List Char) : Option Nat :=
  if digits.length ≤ 3 ∧ digits.all Char.isDigit then
    some ((digits.foldl (fun n c => 10 * n + (c.toNat - '0'.toNat)) 0)
      * Nat.pow 10 (3 - digits.length))
  else none

/-- The weight with a whole part and what follows it. -/
def weightOf? (whole : Nat) : List Char → Option Nat
  | [] => some whole
  | '.' :: digits => do
    let n := whole + (← fraction? digits)
    if n ≤ 1000 then some n else none
  | _ => none

/-- Read a weight. -/
def weight? : List Char → Option Nat
  | 'q' :: '=' :: rest | 'Q' :: '=' :: rest =>
    match rest with
    | '0' :: more => weightOf? 0 more
    | '1' :: more => weightOf? 1000 more
    | _ => none
  | _ => none

/-- Read one entry of a list of codings. -/
def entry? (s : List Char) : Option (Coding × Nat) :=
  match Text.cutAt? ';' s with
  | none => (Coding.ofName? (Text.trim s)).map (·, 1000)
  | some (name, weight) => do
    return (← Coding.ofName? (Text.trim name), ← weight? (Text.trim weight))

/-- The entries of a request. -/
def entries (h : Headers) : List (Coding × Nat) :=
  ((h.all "accept-encoding").filterMap Header.text?).flatMap fun v =>
    (v.splitOn ',').filterMap entry?

/-- The greatest weight of a coding; zero when it is not accepted. -/
def weightFor (c : Coding) (h : Headers) : Nat :=
  ((entries h).filter (·.1 = c)).foldl (fun best e => max best e.2) 0

/-- Whether a client gets compressed content. -/
def prefersGzip (h : Headers) : Bool :=
  0 < weightFor .gzip h && weightFor .identity h ≤ weightFor .gzip h

/-! ### What is compressed -/

/-- The least number of bytes that are compressed. -/
def leastBytes : Nat := 32

/-- Whether content of a type is worth compressing. -/
def isCompressible (contentType : List Char) : Bool :=
  (contentType = "image/svg+xml".toList || !Text.beginsWith "image/".toList contentType)
    && !Text.beginsWith "application/grpc".toList contentType
    && !Text.beginsWith "text/event-stream".toList contentType

/-- Whether a response may be compressed. -/
def isCandidate (r : Response) : Bool :=
  !r.headers.has "content-encoding" && !r.headers.has "content-range"
    && leastBytes ≤ r.body.length
    && isCompressible (((r.headers.get? "content-type").bind Header.text?).getD [])

/-- Mark a response for a client with the given fields. -/
def apply (h : Headers) (r : Response) : Response :=
  if isCandidate r then
    let r := r.add "vary" "accept-encoding"
    if prefersGzip h then (r.erase "accept-ranges").set "content-encoding" "gzip" else r
  else r

end AuthGateway.ContentCoding
