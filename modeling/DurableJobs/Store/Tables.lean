import DurableJobs.Job
import DurableJobs.Numeric.Width
import DurableJobs.Time.Rfc3339

/-!
# The tables

Three tables hold all that outlives a process: the live jobs, the ledger of jobs whose work is done,
and the archive of dead letters. Rows are kept in order of their ids. Ids are handed out once and for
all: the last one is remembered apart from the rows, so deleting a row never brings its id back.

The status of a row is text, as anything may have been written there, and its counters are whole
numbers of any size; `Row.read?` is where a row becomes a `Job`, or does not. Times are compared by
the text they are stored as.
-/

set_option autoImplicit false

namespace DurableJobs.Store

/-- A row of the live jobs. -/
structure Row where
  id : Int
  tenantId : Option String
  jobType : String
  payload : List UInt8
  status : String
  idempotencyKey : Option String
  attemptCount : Int
  maxAttempts : Int
  lastError : Option String
  runAt : Instant
  startedAt : Option Instant
  completedAt : Option Instant
  createdAt : Instant
  updatedAt : Instant
  deriving DecidableEq, Repr

/-- A job whose work has been done, and when that was recorded. -/
structure LedgerEntry where
  jobId : Int
  processedAt : Instant
  deriving DecidableEq, Repr

/-- The tables, in the order in which the migrations make them. -/
inductive Table where
  | jobs
  | ledger
  | deadLetters
  deriving DecidableEq, Repr

/-- How many migrations have to be applied for a table to be there. -/
def Table.migration : Table → Nat
  | .jobs => 1
  | .ledger => 2
  | .deadLetters => 3

structure Tables where
  jobs : List Row
  lastJobId : Int
  ledger : List LedgerEntry
  deadLetters : List DeadLetter
  lastDeadLetterId : Int
  /-- How many migrations have been applied. A table that is not there has no rows. -/
  migrated : Nat
  deriving DecidableEq, Repr

namespace Tables

/-- A database before its first migration. -/
def bare : Tables := ⟨[], 0, [], [], 0, 0⟩

/-- A database with all tables and no rows. -/
def empty : Tables := { bare with migrated := 3 }

def has (tables : Tables) (table : Table) : Bool := table.migration ≤ tables.migrated

end Tables

/-! ## Order of stored times -/

/-- The text of `a` sorts before the text of `b`. -/
def storedBefore (a b : Instant) : Bool := decide (Rfc3339.stored a < Rfc3339.stored b)

/-- The text of `a` does not sort behind the text of `b`. -/
def storedAtMost (a b : Instant) : Bool := !storedBefore b a

/-! ## Rows -/

/-- The counters that a job holds fit 32 bits. -/
def fitsCounter (n : Int) : Bool := fitsSigned 32 n

namespace Row

/-- The job of a row; a counter beyond 32 bits makes the row unreadable. -/
def read? (row : Row) : Option Job :=
  if fitsCounter row.attemptCount && fitsCounter row.maxAttempts then
    some
      { id := row.id
        tenantId := row.tenantId
        jobType := row.jobType
        payload := row.payload
        status := Status.ofStored row.status
        idempotencyKey := row.idempotencyKey
        attemptCount := row.attemptCount
        maxAttempts := row.maxAttempts
        lastError := row.lastError
        runAt := row.runAt
        startedAt := row.startedAt
        completedAt := row.completedAt
        createdAt := row.createdAt
        updatedAt := row.updatedAt }
  else none

def hasStatus (row : Row) (status : Status) : Bool := row.status == status.name

/-- The row of a new job: pending, never tried, due at once unless a time is given. -/
def fresh (job : NewJob) (defaultMaxAttempts : Int) (now : Instant) (id : Int) : Row :=
  { id
    tenantId := job.tenantId
    jobType := job.jobType
    payload := job.payload
    status := Status.pending.name
    idempotencyKey := job.idempotencyKey
    attemptCount := 0
    maxAttempts := job.maxAttempts.getD defaultMaxAttempts
    lastError := none
    runAt := job.runAt.getD now
    startedAt := none
    completedAt := none
    createdAt := now
    updatedAt := now }

/-- Pending, and due by the text of its time. -/
def isDue (row : Row) (now : Instant) : Bool :=
  row.hasStatus .pending && storedAtMost row.runAt now

/-- The order in which due jobs are claimed: by the text of their time, then by id. -/
def claimedBefore (a b : Row) : Bool :=
  storedBefore a.runAt b.runAt || (!storedBefore b.runAt a.runAt && a.id < b.id)

/-- What a claim writes. -/
def claimed (row : Row) (now : Instant) : Row :=
  { row with
    status := Status.processing.name
    startedAt := some now
    updatedAt := now
    attemptCount := row.attemptCount + 1 }

/-- What completion writes. -/
def completed (row : Row) (now : Instant) : Row :=
  { row with status := Status.completed.name, completedAt := some now, updatedAt := now }

/-- What a failure that is tried again writes. -/
def rescheduled (row : Row) (error : String) (retryAt now : Instant) : Row :=
  { row with
    status := Status.pending.name, lastError := some error, runAt := retryAt, updatedAt := now }

/-- What a failure that is final writes. -/
def dead (row : Row) (error : String) (now : Instant) : Row :=
  { row with
    status := Status.failed.name
    lastError := some error
    completedAt := some now
    updatedAt := now }

/-- What taking a job back from a worker that was lost writes. -/
def reclaimed (row : Row) (now : Instant) : Row :=
  { row with
    status := Status.pending.name, attemptCount := row.attemptCount + 1, updatedAt := now }

/-- What cancelling writes. -/
def cancelled (row : Row) (now : Instant) : Row :=
  { row with status := Status.cancelled.name, completedAt := some now, updatedAt := now }

end Row

namespace Tables

/-- The due row that is claimed first. -/
def candidate? (tables : Tables) (now : Instant) : Option Row :=
  (tables.jobs.filter (·.isDue now)).foldl
    (fun best row =>
      match best with
      | none => some row
      | some b => if row.claimedBefore b then some row else some b)
    none

def job? (tables : Tables) (id : Int) : Option Row := tables.jobs.find? (·.id == id)

/-- Change the rows that a test picks; the answer counts them. -/
def updateJobs (tables : Tables) (picks : Row → Bool) (change : Row → Row) : Nat × Tables :=
  ((tables.jobs.filter picks).length,
   { tables with jobs := tables.jobs.map fun row => if picks row then change row else row })

/-- A live row holds the key. -/
def keyTaken (tables : Tables) (key : Option String) : Bool :=
  key.isSome && tables.jobs.any (·.idempotencyKey == key)

/-- Add a row under the next id. -/
def insertJob (tables : Tables) (row : Int → Row) : Row × Tables :=
  let id := tables.lastJobId + 1
  (row id, { tables with jobs := tables.jobs ++ [row id], lastJobId := id })

def deleteJob (tables : Tables) (id : Int) : Nat × Tables :=
  ((tables.jobs.filter (·.id == id)).length,
   { tables with jobs := tables.jobs.filter (·.id != id) })

/-- Put an entry into the ledger, at the place of its id; an entry that is there stays. -/
def record (tables : Tables) (entry : LedgerEntry) : Tables :=
  if tables.ledger.any (·.jobId == entry.jobId) then tables
  else
    { tables with
      ledger := tables.ledger.takeWhile (·.jobId < entry.jobId) ++
        entry :: tables.ledger.dropWhile (·.jobId < entry.jobId) }

def isRecorded (tables : Tables) (id : Int) : Bool := tables.ledger.any (·.jobId == id)

def insertDeadLetter (tables : Tables) (letter : Int → DeadLetter) : DeadLetter × Tables :=
  let id := tables.lastDeadLetterId + 1
  (letter id,
   { tables with deadLetters := tables.deadLetters ++ [letter id], lastDeadLetterId := id })

def deadLetter? (tables : Tables) (id : Int) : Option DeadLetter :=
  tables.deadLetters.find? (·.id == id)

def deleteDeadLetters (tables : Tables) (picks : DeadLetter → Bool) : Nat × Tables :=
  ((tables.deadLetters.filter picks).length,
   { tables with deadLetters := tables.deadLetters.filter (!picks ·) })

end Tables

end DurableJobs.Store
