import DurableJobs.Store.Jobs

/-!
# Calls on dead letters

Archiving moves a job out of the live jobs and restoring makes a new job of what was archived; each is
a transaction, so a job is never in both tables and never in neither.
-/

set_option autoImplicit false

namespace DurableJobs.Store

/-- Archive a job as the caller knows it, and delete its live row, which has to be there. -/
def archive (job : Job) (lastError : String) (now : Instant) : Call DeadLetter :=
  transaction do
    let letter ← statement .deadLetters fun tables =>
      .ok (tables.insertDeadLetter fun id =>
        { id
          originalJobId := job.id
          tenantId := job.tenantId
          jobType := job.jobType
          payload := job.payload
          attemptCount := job.attemptCount
          lastError := some lastError
          failedAt := now
          archivedAt := now })
    let count ← statement .jobs fun tables => .ok (tables.deleteJob job.id)
    if count = 0 then giveUp .notFound
    return letter

/-- Make a new job of a dead letter: the same type, payload and tenant, and nothing else. -/
def restore (id : Int) (maxAttempts : Int) (now : Instant) : Call Job :=
  transaction do
    let some letter ← statement .deadLetters fun tables => .ok (tables.deadLetter? id, tables)
      | giveUp .notFound
    let job : NewJob :=
      { jobType := letter.jobType
        payload := letter.payload
        tenantId := letter.tenantId
        idempotencyKey := none
        maxAttempts := none
        runAt := none }
    let restored ← enqueue job maxAttempts now
    let _ ← statement .deadLetters fun tables => .ok (tables.deleteDeadLetters (·.id == id))
    return restored

def findDeadLetter (id : Int) : Call (Option DeadLetter) :=
  statement .deadLetters fun tables => .ok (tables.deadLetter? id, tables)

/-- Later archived first by the text of the time, and of one time the greater id first. -/
def listedBefore (a b : DeadLetter) : Bool :=
  storedBefore b.archivedAt a.archivedAt ||
    (!storedBefore a.archivedAt b.archivedAt && b.id < a.id)

/-- The dead letters archived last. -/
def listDeadLetters (limit : Nat) : Call (List DeadLetter) :=
  statement .deadLetters fun tables =>
    .ok (((tables.deadLetters.mergeSort fun a b => !listedBefore b a).take limit), tables)

def deleteDeadLetter (id : Int) : Call Bool := do
  let count ← statement .deadLetters fun tables => .ok (tables.deleteDeadLetters (·.id == id))
  return 0 < count

/-- Delete what was archived before a time, by the texts of the times. -/
def purgeArchivedBefore (cutoff : Instant) : Call Nat :=
  statement .deadLetters fun tables =>
    .ok (tables.deleteDeadLetters fun letter => storedBefore letter.archivedAt cutoff)

def countDeadLetters : Call Nat :=
  statement .deadLetters fun tables => .ok (tables.deadLetters.length, tables)

/-- How often each type occurs, each type once, in the order of their names. -/
def tally (types : List String) : List (String × Nat) :=
  (types.mergeSort fun a b => !decide (b < a)).foldr
    (fun name counts =>
      match counts with
      | (other, n) :: rest => if other = name then (name, n + 1) :: rest else (name, 1) :: counts
      | [] => [(name, 1)])
    []

def countDeadLettersByType : Call (List (String × Nat)) :=
  statement .deadLetters fun tables => .ok (tally (tables.deadLetters.map (·.jobType)), tables)

end DurableJobs.Store
