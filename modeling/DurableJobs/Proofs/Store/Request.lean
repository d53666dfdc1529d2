import DurableJobs.Proofs.Run
import DurableJobs.Proofs.Store.Execution

/-!
# Requests and what they change

The store is asked for twenty things. An `Operation` names one of them with its arguments, a `Request`
adds what is not up to the caller, the reading of the clock and the statements that the database fails,
and a run of the store is a list of requests from any number of callers in any order.

`Change` says once and for all what an operation can do: which tables it may leave behind, with which
reply, and what must have been true for that. Everything later is a case analysis on it, and no later
proof looks into a call again.
-/

set_option autoImplicit false

namespace DurableJobs.Store

/-! ## Requests -/

/-- What can be asked of the store. -/
inductive Operation where
  | enqueue (job : NewJob) (defaultMaxAttempts : Int)
  | findJob (id : Int)
  | claimNext
  | markCompleted (id : Int)
  | markFailed (id : Int) (error : String) (retryAt : Instant)
  | markDead (id : Int) (error : String)
  | recordProcessed (id : Int)
  | isProcessed (id : Int)
  | completeProcessed (id : Int)
  | reclaimStuck (olderThan : Int)
  | cancel (id : Int)
  | countByStatus (status : Status)
  | archive (job : Job) (lastError : String)
  | restore (id : Int) (maxAttempts : Int)
  | findDeadLetter (id : Int)
  | listDeadLetters (limit : Nat)
  | deleteDeadLetter (id : Int)
  | purgeArchivedBefore (cutoff : Instant)
  | countDeadLetters
  | countDeadLettersByType
  deriving DecidableEq

/-- What an operation answers. -/
inductive Reply where
  | done
  | job (job : Job)
  | found (job : Option Job)
  | claimed (job : Option Job)
  | flag (holds : Bool)
  | count (n : Nat)
  | letter (letter : DeadLetter)
  | foundLetter (letter : Option DeadLetter)
  | letters (letters : List DeadLetter)
  | tally (counts : List (String × Nat))
  deriving DecidableEq

namespace Operation

/-- The call that an operation names, at a reading of the clock. -/
def call (now : Instant) : Operation → Call Reply
  | enqueue job defaultMaxAttempts => .job <$> Store.enqueue job defaultMaxAttempts now
  | findJob id => .found <$> Store.findJob id
  | claimNext => .claimed <$> Store.claimNext now
  | markCompleted id => (fun _ => .done) <$> Store.markCompleted id now
  | markFailed id error retryAt => (fun _ => .done) <$> Store.markFailed id error retryAt now
  | markDead id error => (fun _ => .done) <$> Store.markDead id error now
  | recordProcessed id => (fun _ => .done) <$> Store.recordProcessed id now
  | isProcessed id => .flag <$> Store.isProcessed id
  | completeProcessed id => (fun _ => .done) <$> Store.completeProcessed id now
  | reclaimStuck olderThan => .count <$> Store.reclaimStuck olderThan now
  | cancel id => .flag <$> Store.cancel id now
  | countByStatus status => .count <$> Store.countByStatus status
  | archive job lastError => .letter <$> Store.archive job lastError now
  | restore id maxAttempts => .job <$> Store.restore id maxAttempts now
  | findDeadLetter id => .foundLetter <$> Store.findDeadLetter id
  | listDeadLetters limit => .letters <$> Store.listDeadLetters limit
  | deleteDeadLetter id => .flag <$> Store.deleteDeadLetter id
  | purgeArchivedBefore cutoff => .count <$> Store.purgeArchivedBefore cutoff
  | countDeadLetters => .count <$> Store.countDeadLetters
  | countDeadLettersByType => .tally <$> Store.countDeadLettersByType

/-- The operations that only look. -/
def looks : Operation → Bool
  | findJob _ | isProcessed _ | countByStatus _ | findDeadLetter _ | listDeadLetters _
  | countDeadLetters | countDeadLettersByType => true
  | _ => false

/-- The operations that may put a new row in. -/
def inserts : Operation → Bool
  | enqueue _ _ | restore _ _ => true
  | _ => false

end Operation

/-- An operation as it reaches the store. -/
structure Request where
  operation : Operation
  now : Instant
  /-- Which of its statements the database fails. -/
  faults : List Bool
  deriving DecidableEq

def Request.execute (request : Request) (tables : Tables) : Except StoreError Reply × Tables :=
  let (reply, session) := (request.operation.call request.now).execute ⟨tables, request.faults⟩
  (reply, session.tables)

/-- A whole second after the start of 1970. -/
def wholeSecond (n : Nat) : Instant := { (default : Instant) with seconds := n }

/-- The tables that a request leaves behind. -/
def Tables.after (tables : Tables) (request : Request) : Tables := (request.execute tables).2

/-- A request and the tables it meets. -/
abbrev Exchange := Event Tables Request

/-- The tables behind a run. -/
abbrev Tables.afterAll (tables : Tables) (requests : List Request) : Tables :=
  Run.final Tables.after tables requests

/-- The exchanges of a run. -/
abbrev Tables.exchanges (tables : Tables) (requests : List Request) : List Exchange :=
  Run.history Tables.after tables requests

namespace Exchange

def reply (e : Exchange) : Except StoreError Reply := (e.act.execute e.before).1

def after (e : Exchange) : Tables := e.before.after e.act

end Exchange

/-! ## What an operation can do -/

/-- The job of a row that has just been written, or the error of a row that cannot be read. -/
def Row.answer (row : Row) : Except StoreError Job := row.read?.elim (.error .database) .ok

/-- The dead letter that archiving a job writes. -/
def letterOf (job : Job) (lastError : String) (now : Instant) (id : Int) : DeadLetter :=
  { id
    originalJobId := job.id
    tenantId := job.tenantId
    jobType := job.jobType
    payload := job.payload
    attemptCount := job.attemptCount
    lastError := some lastError
    failedAt := now
    archivedAt := now }

/-- The job that restoring a dead letter puts in. -/
def jobOfLetter (letter : DeadLetter) : NewJob :=
  { jobType := letter.jobType
    payload := letter.payload
    tenantId := letter.tenantId
    idempotencyKey := none
    maxAttempts := none
    runAt := none }

/-- What an operation can make of the tables, and what it replies then. -/
inductive Change (now : Instant) (tables : Tables) :
    Operation → Except StoreError Reply → Tables → Prop where
  /-- Whatever fails leaves the tables alone, but for a row that is written and cannot be read. -/
  | failed (operation : Operation) (error : StoreError) :
      Change now tables operation (.error error) tables
  | looked (operation : Operation) (reply : Reply) (looks : operation.looks = true)
      (ledger : ∀ id, operation = .isProcessed id → reply = .flag (tables.isRecorded id)) :
      Change now tables operation (.ok reply) tables
  | enqueued (job : NewJob) (attempts : Int) (free : tables.keyTaken job.idempotencyKey = false) :
      Change now tables (.enqueue job attempts)
        ((Row.fresh job attempts now (tables.lastJobId + 1)).answer.map .job)
        (tables.insertJob (Row.fresh job attempts now)).2
  | idle (empty : tables.candidate? now = none) :
      Change now tables .claimNext (.ok (.claimed none)) tables
  | claimed (row : Row) (first : tables.candidate? now = some row) :
      Change now tables .claimNext ((row.claimed now).answer.map fun job => .claimed (some job))
        (tables.updateJobs (·.id == row.id) (·.claimed now)).2
  | completed (id : Int) (live : (tables.job? id).isSome) :
      Change now tables (.markCompleted id) (.ok .done)
        (tables.updateJobs (·.id == id) (·.completed now)).2
  | rescheduled (id : Int) (error : String) (retryAt : Instant) (live : (tables.job? id).isSome) :
      Change now tables (.markFailed id error retryAt) (.ok .done)
        (tables.updateJobs (·.id == id) (·.rescheduled error retryAt now)).2
  | buried (id : Int) (error : String) (live : (tables.job? id).isSome) :
      Change now tables (.markDead id error) (.ok .done)
        (tables.updateJobs (·.id == id) (·.dead error now)).2
  | recorded (id : Int) : Change now tables (.recordProcessed id) (.ok .done) (tables.record ⟨id, now⟩)
  | settled (id : Int) (live : (tables.job? id).isSome) :
      Change now tables (.completeProcessed id) (.ok .done)
        ((tables.record ⟨id, now⟩).updateJobs (·.id == id) (·.completed now)).2
  | reclaimed (olderThan : Int) (threshold : Instant)
      (age : now.addNanos? (-olderThan) = some threshold) :
      Change now tables (.reclaimStuck olderThan)
        (.ok (.count (tables.updateJobs
          (fun row => row.hasStatus .processing && storedBefore row.updatedAt threshold)
          (·.reclaimed now)).1))
        (tables.updateJobs
          (fun row => row.hasStatus .processing && storedBefore row.updatedAt threshold)
          (·.reclaimed now)).2
  | cancelled (id : Int) :
      Change now tables (.cancel id)
        (.ok (.flag (decide (0 < (tables.updateJobs (fun row => row.id == id && row.hasStatus .pending)
          (·.cancelled now)).1))))
        (tables.updateJobs (fun row => row.id == id && row.hasStatus .pending) (·.cancelled now)).2
  | archived (job : Job) (lastError : String) (live : (tables.job? job.id).isSome) :
      Change now tables (.archive job lastError)
        (.ok (.letter (letterOf job lastError now (tables.lastDeadLetterId + 1))))
        ((tables.insertDeadLetter (letterOf job lastError now)).2.deleteJob job.id).2
  | restored (id attempts : Int) (letter : DeadLetter) (job : Job)
      (found : tables.deadLetter? id = some letter)
      (readable :
        (Row.fresh (jobOfLetter letter) attempts now (tables.lastJobId + 1)).read? = some job) :
      Change now tables (.restore id attempts) (.ok (.job job))
        ((tables.insertJob (Row.fresh (jobOfLetter letter) attempts now)).2.deleteDeadLetters
          (·.id == id)).2
  | discarded (id : Int) :
      Change now tables (.deleteDeadLetter id)
        (.ok (.flag (decide (0 < (tables.deleteDeadLetters (·.id == id)).1))))
        (tables.deleteDeadLetters (·.id == id)).2
  | purged (cutoff : Instant) :
      Change now tables (.purgeArchivedBefore cutoff)
        (.ok (.count (tables.deleteDeadLetters fun letter => storedBefore letter.archivedAt cutoff).1))
        (tables.deleteDeadLetters fun letter => storedBefore letter.archivedAt cutoff).2

end DurableJobs.Store
