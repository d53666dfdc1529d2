import DurableJobs.Processor.Task

/-!
# The dead letter queue

What is done with dead letters as a whole: moving a job there, which is counted, making it a job again
under the policy, and deleting what has been kept long enough.
-/

set_option autoImplicit false

namespace DurableJobs

namespace DeadLetters

/-- Archive a job; what was archived is counted. -/
def move (job : Job) (lastError : String) (now : Instant) (metrics : Metrics)
    (session : Store.Session) : Except StoreError DeadLetter × Metrics × Store.Session :=
  let (answer, session) := (Store.archive job lastError now).execute session
  match answer with
  | .ok letter => (.ok letter, metrics.deadLettered job.jobType, session)
  | .error error => (.error error, metrics, session)

/-- Make a dead letter a job again, with the attempts the policy gives. -/
def reprocess (policy : DeadLetterPolicy) (id : Int) (now : Instant) : Store.Call Job :=
  Store.restore id policy.maxAttempts now

/-- Delete what was archived longer ago than a span in nanoseconds. -/
def cleanup (retention : Int) (now : Instant) : Store.Call Nat :=
  match now.addNanos? (-retention) with
  | some cutoff => Store.purgeArchivedBefore cutoff
  | none => throw .calendarOverflow

def stats : Store.Call DeadLetterStats := do
  let total ← Store.countDeadLetters
  let byType ← Store.countDeadLettersByType
  return ⟨total, byType⟩

end DeadLetters

end DurableJobs
