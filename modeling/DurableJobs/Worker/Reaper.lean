import DurableJobs.Processor.Task

/-!
# The reaper

A worker that is lost leaves its jobs in processing. The reaper takes back every job that has been there
unchanged for longer than a configured age, and counts what it took back.
-/

set_option autoImplicit false

namespace DurableJobs

/-- An error of a background worker. -/
inductive WorkerError where
  | store (error : StoreError)
  | internal (text : String)
  deriving DecidableEq, Repr

def WorkerError.message? : WorkerError → Option String
  | .store error => error.message?.map ("仓库错误: " ++ ·)
  | .internal text => some ("内部错误: " ++ text)

namespace Reaper

/-- The age beyond which a job counts as lost when the configured one cannot be reckoned with. -/
def standardAge : Int := 5 * 60 * 1000000000

def age (timeout : Span) : Int := (Processor.deltaOf? timeout).getD standardAge

/-- One pass. What it rescued is counted. -/
def rescue (timeout : Span) (now : Instant) (metrics : Metrics) (session : Store.Session) :
    Except StoreError Nat × Metrics × Store.Session :=
  let (answer, session) := (Store.reclaimStuck (age timeout) now).execute session
  match answer with
  | .ok count => (.ok count, if 0 < count then metrics.rescued count else metrics, session)
  | .error error => (.error error, metrics, session)

end Reaper

end DurableJobs
