/-!
# Metrics

What is counted: runs of handlers with their outcomes and lengths, retries, dead letters and rescued
jobs. A reading is a number per metric and label values; of a histogram it is the number of samples,
which is all that does not depend on the speed of the machine.
-/

set_option autoImplicit false

namespace DurableJobs

namespace Metric

def processingSeconds : String := "job_processing_seconds"
def processedTotal : String := "jobs_processed_total"
def retriesTotal : String := "job_retries_total"
def deadLetterTotal : String := "jobs_dead_letter_total"
def zombiesRescuedTotal : String := "jobs_zombies_rescued_total"

/-- What a metric is to its readers. -/
structure Description where
  name : String
  kind : String
  unit : Option String
  text : String
  deriving DecidableEq, Repr

def descriptions : List Description :=
  [⟨processingSeconds, "histogram", some "seconds", "Time spent running a job handler"⟩,
   ⟨processedTotal, "counter", none, "Total number of job executions by type and outcome"⟩,
   ⟨retriesTotal, "counter", none,
     "Total number of retryable job failures rescheduled with backoff"⟩,
   ⟨deadLetterTotal, "counter", none, "Total number of jobs moved to the dead-letter queue"⟩,
   ⟨zombiesRescuedTotal, "counter", none,
     "Total number of stuck processing jobs returned to pending"⟩]

end Metric

/-- A metric with its labels, which are sorted by name. -/
structure MetricKey where
  name : String
  labels : List (String × String)
  deriving DecidableEq, Repr

/-- The name of a metric with its labels between braces. -/
def MetricKey.text (key : MetricKey) : String :=
  key.name ++ "\x7b" ++ ",".intercalate (key.labels.map fun l => l.1 ++ "=" ++ l.2) ++ "\x7d"

/-- The readings, each metric once. -/
structure Metrics where
  readings : List (MetricKey × Nat)
  deriving DecidableEq, Repr

namespace Metrics

def zero : Metrics := ⟨[]⟩

/-- The reading of a metric; one never touched reads zero. -/
def count (metrics : Metrics) (key : MetricKey) : Nat := (metrics.readings.lookup key).getD 0

def addTo (key : MetricKey) (n : Nat) : List (MetricKey × Nat) → List (MetricKey × Nat)
  | [] => [(key, n)]
  | (k, m) :: rest => if k = key then (k, m + n) :: rest else (k, m) :: addTo key n rest

/-- Raise a reading. -/
def add (metrics : Metrics) (key : MetricKey) (n : Nat) : Metrics :=
  ⟨addTo key n metrics.readings⟩

/-- The outcome of a run as a label. -/
def outcomeLabel (succeeded : Bool) : String := if succeeded then "success" else "failed"

/-- A handler has run. -/
def handled (metrics : Metrics) (jobType : String) (succeeded : Bool) : Metrics :=
  let labels := [("status", outcomeLabel succeeded), ("type", jobType)]
  (metrics.add ⟨Metric.processingSeconds, labels⟩ 1).add ⟨Metric.processedTotal, labels⟩ 1

def retried (metrics : Metrics) (jobType : String) : Metrics :=
  metrics.add ⟨Metric.retriesTotal, [("type", jobType)]⟩ 1

def deadLettered (metrics : Metrics) (jobType : String) : Metrics :=
  metrics.add ⟨Metric.deadLetterTotal, [("type", jobType)]⟩ 1

def rescued (metrics : Metrics) (n : Nat) : Metrics :=
  metrics.add ⟨Metric.zombiesRescuedTotal, []⟩ n

end Metrics

end DurableJobs
