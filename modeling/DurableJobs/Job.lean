import DurableJobs.Numeric.Width
import DurableJobs.Text.Blank
import DurableJobs.Text.Decimal
import DurableJobs.Text.Keyed
import DurableJobs.Text.Offset
import DurableJobs.Time.Instant

/-!
# Jobs

A job is a piece of work with a type and a payload, and the record of what has become of it. The type
of its times is a parameter: the store holds instants, a document holds instants with the offset they
were written at, and everything else about a job is the same in both.
-/

set_option autoImplicit false

namespace DurableJobs

/-! ## Status -/

inductive Status where
  | pending
  | processing
  | completed
  | cancelled
  | failed
  deriving DecidableEq, Repr

namespace Status

instance : Inhabited Status := ⟨.pending⟩

def name : Status → String
  | .pending => "pending"
  | .processing => "processing"
  | .completed => "completed"
  | .cancelled => "cancelled"
  | .failed => "failed"

def all : List Status := [.pending, .processing, .completed, .cancelled, .failed]

def ofName? (name : String) : Option Status := all.find? (·.name == name)

theorem ofName?_name (status : Status) : ofName? status.name = some status := by
  cases status <;> decide

/-- The status a stored text stands for; a text that is no status counts as pending. -/
def ofStored (text : String) : Status := (ofName? text).getD .pending

end Status

/-! ## Built-in types -/

/-- The job types that come with a handler. A job may have any other type. -/
inductive BuiltinType where
  | sendEmail
  | sendVerificationEmail
  | sendPasswordResetEmail
  | processAi
  | processWebhook
  deriving DecidableEq, Repr

namespace BuiltinType

def name : BuiltinType → String
  | .sendEmail => "send_email"
  | .sendVerificationEmail => "send_verification_email"
  | .sendPasswordResetEmail => "send_password_reset_email"
  | .processAi => "process_ai"
  | .processWebhook => "process_webhook"

def all : List BuiltinType :=
  [.sendEmail, .sendVerificationEmail, .sendPasswordResetEmail, .processAi, .processWebhook]

def ofName? (name : String) : Option BuiltinType := all.find? (·.name == name)

end BuiltinType

/-! ## Records -/

/-- A job with times of type `τ`. -/
structure JobOf (τ : Type) where
  id : Int
  tenantId : Option String
  jobType : String
  payload : List UInt8
  status : Status
  idempotencyKey : Option String
  attemptCount : Int
  maxAttempts : Int
  lastError : Option String
  runAt : τ
  startedAt : Option τ
  completedAt : Option τ
  createdAt : τ
  updatedAt : τ
  deriving DecidableEq, Repr

abbrev Job := JobOf Instant

/-- A job to be: what an enqueue is given. -/
structure NewJob where
  jobType : String
  payload : List UInt8
  tenantId : Option String
  idempotencyKey : Option String
  maxAttempts : Option Int
  runAt : Option Instant
  deriving DecidableEq, Repr

/-- A job that used up its attempts or grew too old, as it is archived. -/
structure DeadLetterOf (τ : Type) where
  id : Int
  originalJobId : Int
  tenantId : Option String
  jobType : String
  payload : List UInt8
  attemptCount : Int
  lastError : Option String
  failedAt : τ
  archivedAt : τ
  deriving DecidableEq, Repr

abbrev DeadLetter := DeadLetterOf Instant

/-- How many dead letters there are, in all and by type. -/
structure DeadLetterStats where
  total : Nat
  byType : Keyed Nat
  deriving DecidableEq, Repr

/-! ## Questions about a job -/

/-- All attempts have been used. -/
def attemptsExhausted (attemptCount maxAttempts : Int) : Bool := maxAttempts ≤ attemptCount

def JobOf.attemptsExhausted {τ : Type} (job : JobOf τ) : Bool :=
  DurableJobs.attemptsExhausted job.attemptCount job.maxAttempts

def isSign (c : Char) : Bool := c == '+' || c == '-'

/-- What stands in front of a text as a number: an optional sign and the digits behind it. The text is cut
at offsets in bytes, behind the sign and behind the digits. -/
def leadingNumber? (cs : List Char) : Option (List Char) := do
  let signBytes := if cs.head?.any isSign then 1 else 0
  let (_, unsigned) ← Text.cutAtByte? signBytes cs
  let digitBytes :=
    (Text.offsetOf? (fun c => !c.isDigit) unsigned).getD (Text.byteLength cs - signBytes)
  let (number, _) ← Text.cutAtByte? (signBytes + digitBytes) cs
  return number

/-- The number at the front of a text, behind blanks, if there are digits and 64 bits hold it. -/
def leadingInteger? (cs : List Char) : Option Int :=
  (leadingNumber? (Text.trimStart cs)).bind Text.int64?

/-- The user a tenant's name begins with: a positive number. -/
def tenantUser? (tenantId : Option String) : Option Int :=
  (tenantId.bind fun tenant => leadingInteger? tenant.toList).filter (0 < ·)

def JobOf.tenantUser? {τ : Type} (job : JobOf τ) : Option Int :=
  DurableJobs.tenantUser? job.tenantId

end DurableJobs
