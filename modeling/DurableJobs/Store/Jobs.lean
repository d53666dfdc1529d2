import DurableJobs.Store.Call

/-!
# Calls on jobs

Every call names the reading of the clock it works with. None of the calls that close or reschedule a
job looks at its status: whoever holds a job says what becomes of it. Only claiming, taking back and
cancelling are conditional.
-/

set_option autoImplicit false

namespace DurableJobs.Store

/-- The attempts a job gets when neither it nor the store's configuration says otherwise. -/
def standardMaxAttempts : Int := 5

/-- The configured default is at least one attempt. -/
def configuredMaxAttempts (configured : Option Int) : Int :=
  match configured with
  | some n => max n 1
  | none => standardMaxAttempts

/-- Add a job. A live job that holds the same key, whatever its status, stands in the way. -/
def enqueue (job : NewJob) (defaultMaxAttempts : Int) (now : Instant) : Call Job := do
  let row ← statement .jobs fun tables =>
    if tables.keyTaken job.idempotencyKey then
      .error (.duplicate (job.idempotencyKey.getD ""))
    else .ok (tables.insertJob (Row.fresh job defaultMaxAttempts now))
  readRow row

def findJob (id : Int) : Call (Option Job) := do
  match ← statement .jobs fun tables => .ok (tables.job? id, tables) with
  | some row => return some (← readRow row)
  | none => return none

/-- Claim the due job that comes first. The claim stands even if its row cannot be read. -/
def claimNext (now : Instant) : Call (Option Job) := do
  let claimed ← statement .jobs fun tables =>
    match tables.candidate? now with
    | some row =>
        let (_, after) := tables.updateJobs (·.id == row.id) (·.claimed now)
        .ok (some (row.claimed now), after)
    | none => .ok (none, tables)
  match claimed with
  | some row => return some (← readRow row)
  | none => return none

/-- Change the row of an id, which has to be there. -/
def amend (id : Int) (change : Row → Row) : Call Unit := do
  let count ← statement .jobs fun tables => .ok (tables.updateJobs (·.id == id) change)
  if count = 0 then throw .notFound

def markCompleted (id : Int) (now : Instant) : Call Unit := amend id (·.completed now)

def markFailed (id : Int) (error : String) (retryAt now : Instant) : Call Unit :=
  amend id (·.rescheduled error retryAt now)

def markDead (id : Int) (error : String) (now : Instant) : Call Unit :=
  amend id (·.dead error now)

/-- Record that a job's work is done. The first record of an id stays as it is. -/
def recordProcessed (id : Int) (now : Instant) : Call Unit :=
  statement .ledger fun tables => .ok ((), tables.record ⟨id, now⟩)

def isProcessed (id : Int) : Call Bool :=
  statement .ledger fun tables => .ok (tables.isRecorded id, tables)

/-- Record a job's work and complete its row, both or neither. -/
def completeProcessed (id : Int) (now : Instant) : Call Unit :=
  transaction do
    recordProcessed id now
    markCompleted id now

/-- Take back the jobs that have been processing without a change for longer than a span, given in
nanoseconds. -/
def reclaimStuck (olderThan : Int) (now : Instant) : Call Nat :=
  match now.addNanos? (-olderThan) with
  | none => throw .calendarOverflow
  | some threshold =>
      statement .jobs fun tables =>
        .ok (tables.updateJobs
          (fun row => row.hasStatus .processing && storedBefore row.updatedAt threshold)
          (·.reclaimed now))

/-- Cancel a job that is still pending; the answer says whether it was. -/
def cancel (id : Int) (now : Instant) : Call Bool := do
  let count ← statement .jobs fun tables =>
    .ok (tables.updateJobs (fun row => row.id == id && row.hasStatus .pending) (·.cancelled now))
  return 0 < count

def countByStatus (status : Status) : Call Nat :=
  statement .jobs fun tables => .ok ((tables.jobs.filter (·.hasStatus status)).length, tables)

end DurableJobs.Store
