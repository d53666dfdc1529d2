import DurableJobs.Json.Error
import DurableJobs.Processor.Task

/-!
# Producers

A producer puts jobs into the store and wakes a processor for each that got in. A job whose key a live
job holds is already scheduled: nothing changes and nobody is woken.
-/

set_option autoImplicit false

namespace DurableJobs

inductive ProducerError where
  | alreadyScheduled (key : String)
  /-- The payload could not be written as JSON. -/
  | serialization (text : String)
  | store (error : StoreError)
  deriving DecidableEq, Repr

namespace ProducerError

/-- The text of an error that has a fixed one. -/
def message? : ProducerError → Option String
  | .alreadyScheduled key => some ("Job already scheduled for idempotency key " ++ key)
  | .serialization text => some ("Payload serialization error: " ++ text)
  | .store error => error.message?.map ("Repository error: " ++ ·)

def ofStoreError : StoreError → ProducerError
  | .duplicate key => .alreadyScheduled key
  | error => .store error

end ProducerError

namespace Producer

/-- Why a value has no JSON text: keys of objects are strings. -/
def keyNotString : ProducerError := .serialization Json.keyNotStringText

variable {σ : Type}

/-- Put a job into the store; the processor is woken once it is in. -/
def enqueue (job : NewJob) (defaultMaxAttempts : Int) (now : Instant) (p : Processor σ)
    (session : Store.Session) : Except ProducerError Job × Processor σ × Store.Session :=
  let (answer, session) := (Store.enqueue job defaultMaxAttempts now).execute session
  match answer with
  | .ok created => (.ok created, p.notify, session)
  | .error error => (.error (.ofStoreError error), p, session)

end Producer

end DurableJobs
