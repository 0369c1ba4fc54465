import TaskQueue.Number.Double

/-!
# `TaskQueue.Telemetry.Metrics`: counters of a client

A client counts what it submits, the publications that fail, what its fetches find, and the
polls that run out of time. It also keeps a histogram of how long publications take. A counter
has one sample for each combination of labels that occurred, sorted by the labels.
-/

set_option autoImplicit false

namespace TaskQueue

/-- What a fetch found. -/
inductive FetchOutcome where
  | ready
  | notReady
  | malformed
deriving DecidableEq, Repr

/-- The outcome as a label. -/
def FetchOutcome.label : FetchOutcome → String
  | ready => "ready"
  | notReady => "not_ready"
  | malformed => "malformed"

/-- The samples of a counter: label values with a count. -/
abbrev Counter := List (List String × Nat)

namespace Counter

/-- Whether label values come before others, by the first that differs. -/
def before : List String → List String → Bool
  | [], [] => false
  | [], _ :: _ => true
  | _ :: _, [] => false
  | a :: as, b :: bs => if a < b then true else if a = b then before as bs else false

/-- Counts one more. -/
def increment (labels : List String) : Counter → Counter
  | [] => [(labels, 1)]
  | (l, n) :: rest =>
    if labels = l then (l, n + 1) :: rest
    else if before labels l then (labels, 1) :: (l, n) :: rest
    else (l, n) :: increment labels rest

/-- The count under some labels. -/
def count (labels : List String) : Counter → Nat
  | [] => 0
  | (l, n) :: rest => if labels = l then n else count labels rest

/-- The sum over all labels. -/
def total (c : Counter) : Nat := c.foldr (fun l n => l.2 + n) 0

end Counter

/-- The metrics of a client. -/
structure Metrics where
  submitted : Counter := []
  failures : Counter := []
  fetches : Counter := []
  timeouts : Counter := []
  latencies : List Double := []
deriving Repr, Inhabited

namespace Metrics

/-- A task was submitted. -/
def taskSubmitted (m : Metrics) (exchange task : String) : Metrics :=
  { m with submitted := m.submitted.increment [exchange, task] }

/-- A publication failed. -/
def publishFailed (m : Metrics) (backend : String) : Metrics :=
  { m with failures := m.failures.increment [backend] }

/-- A fetch was made. -/
def resultFetched (m : Metrics) (backend : String) (outcome : FetchOutcome) : Metrics :=
  { m with fetches := m.fetches.increment [backend, outcome.label] }

/-- A poll ran out of time. -/
def pollTimedOut (m : Metrics) (task : String) : Metrics :=
  { m with timeouts := m.timeouts.increment [task] }

/-- A publication took so many seconds. -/
def latency (m : Metrics) (seconds : Double) : Metrics :=
  { m with latencies := m.latencies ++ [seconds] }

/-! ## Text -/

/-- A counter as it is exported: its name, what it counts, the names of its labels, and its
samples. -/
structure Family where
  name : String
  help : String
  labels : List String
  samples : Counter

/-- One character of a label value. -/
def escapeChar (c : Char) : List Char :=
  if c = '\\' then ['\\', '\\']
  else if c = '"' then ['\\', '"']
  else if c = '\n' then ['\\', 'n']
  else [c]

/-- A label with its value. -/
def labelText (name value : String) : String :=
  name ++ "=\"" ++ String.ofList (value.toList.flatMap escapeChar) ++ "\""

/-- A sample of a family. -/
def sampleText (f : Family) (s : List String × Nat) : String :=
  f.name ++ "\x7b" ++ ",".intercalate (List.zipWith labelText f.labels s.1) ++ "\x7d " ++
    toString s.2

/-- What a family begins with. -/
def headLines (name help kind : String) : List String :=
  ["# HELP " ++ name ++ " " ++ help, "# TYPE " ++ name ++ " " ++ kind]

/-- The lines of a counter; without samples there are none. -/
def Family.lines (f : Family) : List String :=
  if f.samples.isEmpty then []
  else headLines f.name f.help "counter" ++ f.samples.map (sampleText f)

/-- The name of the histogram. -/
def latencyName : String := "celeriac_publish_latency_seconds"

/-- The lines of all families, sorted by name. Of the histogram only the head is shown. -/
def lines (m : Metrics) : List String :=
  Family.lines ⟨"celeriac_poll_timeouts_total", "Total number of result polls that timed out",
    ["task_name"], m.timeouts⟩ ++
  Family.lines ⟨"celeriac_publish_failures_total", "Total number of failed publications",
    ["backend"], m.failures⟩ ++
  headLines latencyName "Broker publish latency" "histogram" ++
  Family.lines ⟨"celeriac_result_fetches_total", "Total number of result fetch attempts",
    ["backend", "outcome"], m.fetches⟩ ++
  Family.lines ⟨"celeriac_tasks_submitted_total", "Total number of tasks submitted",
    ["exchange", "task_name"], m.submitted⟩

/-- The upper bounds of the buckets, as they are written and as numbers. -/
def buckets : List (String × Double) :=
  [("0.0005", Double.ofDecimal false 5 (-4)), ("0.001", Double.ofDecimal false 1 (-3)),
    ("0.005", Double.ofDecimal false 5 (-3)), ("0.01", Double.ofDecimal false 1 (-2)),
    ("0.05", Double.ofDecimal false 5 (-2)), ("0.1", Double.ofDecimal false 1 (-1)),
    ("0.5", Double.ofDecimal false 5 (-1)), ("1", Double.ofDecimal false 1 0),
    ("5", Double.ofDecimal false 5 0), ("+Inf", .infinite false)]

/-- The number of publications that took no longer than a bound. -/
def within (m : Metrics) (bound : Double) : Nat := m.latencies.countP fun x => x.le bound

/-- The number of publications that were timed. -/
def timed (m : Metrics) : String × Nat := (latencyName ++ "_count", m.latencies.length)

/-- The samples of the histogram. -/
def latencySamples (m : Metrics) : List (String × Nat) :=
  buckets.map (fun b =>
    (latencyName ++ "_bucket\x7b" ++ labelText "le" b.1 ++ "\x7d", m.within b.2)) ++ [m.timed]

end Metrics
end TaskQueue
