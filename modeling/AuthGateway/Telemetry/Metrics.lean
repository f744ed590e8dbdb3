import AuthGateway.Number.Shortest

/-!
# Request metrics

A recorder counts completed requests by status, path and method, and keeps a histogram of their
durations where durations are recorded.  `Recorder.render` is the text of a scrape: for each metric
a line with its type and one line per sample.

Label values are quoted.  A line end and a quote are escaped; a backslash is doubled, except that
the second of two backslashes belongs to the first, and a single backslash before a quote is lost
in the quote's escape.  Series whose labels have the same text are shown as one.
-/

namespace AuthGateway

/-- What tells requests apart. -/
structure RequestLabels where
  status : Nat
  path : String
  method : String
  deriving DecidableEq, Repr

/-- How long a request took. -/
structure Duration where
  seconds : Nat
  nanoseconds : Nat
  deriving DecidableEq, Repr

/-- The duration as a floating point number of seconds; zero beyond the format's range. -/
def Duration.toSeconds (d : Duration) : Binary64 :=
  let fraction := (Binary64.ofRatio false d.nanoseconds 1000000000).getD (Binary64.zero false)
  ((Binary64.ofNat d.seconds).add fraction).getD (Binary64.zero false)

/-! ### Labels -/

namespace RequestLabels

/-- A label value inside its quotes; `pending` says that a backslash was read and not yet
written. -/
def escape : Bool → List Char → List Char
  | pending, [] => if pending then ['\\', '\\'] else []
  | pending, c :: s =>
    if c = '\n' then '\\' :: 'n' :: escape pending s
    else if c = '"' then '\\' :: '"' :: escape false s
    else if c = '\\' then
      if pending then '\\' :: '\\' :: escape false s else escape true s
    else if pending then '\\' :: '\\' :: c :: escape false s
    else c :: escape false s

/-- One label. -/
def label (name value : String) : List Char :=
  name.toList ++ '=' :: '"' :: escape false value.toList ++ ['"']

/-- The labels of a series, without braces. -/
def text (l : RequestLabels) : List Char :=
  [','].intercalate
    [label "status" (toString l.status), label "path" l.path, label "method" l.method]

end RequestLabels

/-! ### Histograms -/

/-- The durations of some requests. -/
structure Histogram where
  sum : Binary64
  count : Nat
  /-- For every bound, how many durations do not exceed it. -/
  buckets : List Nat
  deriving DecidableEq, Repr

namespace Histogram

/-- No durations. -/
def empty (bounds : List Binary64) : Histogram :=
  ⟨Binary64.zero false, 0, bounds.map fun _ => 0⟩

/-- Take in one duration. -/
def record (bounds : List Binary64) (h : Histogram) (x : Binary64) : Histogram :=
  { sum := (h.sum.add x).getD h.sum
    count := h.count + 1
    buckets := (bounds.zip h.buckets).map fun (bound, n) => if x.le bound then n + 1 else n }

end Histogram

/-! ### The recorder -/

/-- What has been recorded, series in the order in which they first came up.  Counts are natural
numbers here; an exporter keeps them in 64 bits, and they agree as long as no series counts `2 ^ 64`
requests. -/
structure Recorder where
  /-- The bounds of the histograms' buckets; without any, durations are only summed and counted. -/
  bounds : List Binary64
  counters : List (RequestLabels × Nat)
  durations : List (RequestLabels × Histogram)
  deriving DecidableEq, Repr

/-- One recorded request. -/
structure Observation where
  labels : RequestLabels
  duration : Option Duration
  deriving DecidableEq, Repr

namespace Recorder

/-- Nothing recorded yet. -/
def empty (bounds : List Binary64) : Recorder :=
  ⟨bounds, [], []⟩

/-- The bounds of request durations, in milliseconds. -/
def requestMilliseconds : List Nat :=
  [1, 5, 10, 25, 50, 100, 250, 500, 1000, 2500, 5000]

/-- The bounds of request durations. -/
def requestBounds : List Binary64 :=
  requestMilliseconds.filterMap fun n => Binary64.ofRatio false n 1000

/-- Change the value of a series, which begins with a given value. -/
def update {α : Type} (labels : RequestLabels) (start : α) (f : α → α) :
    List (RequestLabels × α) → List (RequestLabels × α)
  | [] => [(labels, f start)]
  | (l, a) :: rest => if l = labels then (l, f a) :: rest else (l, a) :: update labels start f rest

/-- Record one request. -/
def record (r : Recorder) (o : Observation) : Recorder :=
  { r with
    counters := update o.labels 0 (· + 1) r.counters
    durations :=
      match o.duration with
      | none => r.durations
      | some d =>
        update o.labels (Histogram.empty r.bounds) (·.record r.bounds d.toSeconds) r.durations }

/-- The count of a series. -/
def count (r : Recorder) (labels : RequestLabels) : Nat :=
  (r.counters.lookup labels).getD 0

/-! ### Rendering -/

/-- The counter of requests. -/
def totalName : String := "edge_http_requests_total"

/-- The durations of requests. -/
def durationName : String := "edge_http_request_duration_seconds"

/-- A sample: the metric's name, its labels without braces, and its value. -/
def sample (name : String) (labels value : List Char) : List Char :=
  name.toList ++ '{' :: labels ++ '}' :: ' ' :: value

/-- Merge the values of series with the same text. -/
def byText {α : Type} (merge : α → α → α) :
    List (RequestLabels × α) → List (List Char × α) → List (List Char × α)
  | [], shown => shown
  | (l, a) :: rest, shown =>
    let rec put : List (List Char × α) → List (List Char × α)
      | [] => [(l.text, a)]
      | (t, b) :: more => if t = l.text then (t, merge b a) :: more else (t, b) :: put more
    byText merge rest (put shown)

/-- Two histograms over the same bounds as one. -/
def merge (h k : Histogram) : Histogram :=
  ⟨(h.sum.add k.sum).getD h.sum, h.count + k.count, List.zipWith (· + ·) h.buckets k.buckets⟩

/-- The samples of the counter.  Of series with the same text the last one shows. -/
def counterSamples (r : Recorder) : List (List Char) :=
  (byText (fun _ n => n) r.counters []).map fun (labels, n) =>
    sample totalName labels (Nat.toDigits 10 n)

/-- The labels of a bucket. -/
def bucketLabels (labels : List Char) (bound : List Char) : List Char :=
  labels ++ ",le=\"".toList ++ bound ++ ['"']

/-- The samples of one histogram. -/
def histogramSamples (bounds : List Binary64) (labels : List Char) (h : Histogram) :
    List (List Char) :=
  let total := Nat.toDigits 10 h.count
  let bucket (bound value : List Char) :=
    sample (durationName ++ "_bucket") (bucketLabels labels bound) value
  let buckets :=
    if bounds = [] then []
    else
      (bounds.zip h.buckets).map (fun (b, n) => bucket (Decimal.positional b) (Nat.toDigits 10 n))
        ++ [bucket "+Inf".toList total]
  buckets
    ++ [sample (durationName ++ "_sum") labels (Decimal.positional h.sum),
      sample (durationName ++ "_count") labels total]

/-- The samples of all durations. -/
def durationSamples (r : Recorder) : List (List Char) :=
  (byText merge r.durations []).flatMap fun (labels, h) => histogramSamples r.bounds labels h

/-- The line with the type of a metric. -/
def typeLine (name kind : String) : List Char :=
  ("# TYPE " ++ name ++ " " ++ kind).toList

/-- The lines of a metric: nothing when it has no samples, and an empty line at the end. -/
def metricLines (name kind : String) (samples : List (List Char)) : List (List Char) :=
  if samples = [] then [] else typeLine name kind :: samples ++ [[]]

/-- The lines of a scrape. -/
def lines (r : Recorder) : List (List Char) :=
  metricLines totalName "counter" r.counterSamples
    ++ metricLines durationName (if r.bounds = [] then "summary" else "histogram") r.durationSamples

/-- The text of a scrape. -/
def render (r : Recorder) : String :=
  String.ofList (r.lines.flatMap (· ++ ['\n']))

end Recorder

end AuthGateway
