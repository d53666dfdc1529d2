import DurableJobs.Failure
import DurableJobs.Job
import DurableJobs.Text.Keyed

/-!
# Handlers and their registry

A handler does the work of one job type. It is told which job it works for and is given the payload; it
answers, or it waits for something and answers later, or it panics. Its collaborators (a mail provider,
a language model) are a state `σ` that it may change, so a handler is a function and the
order of its effects is the order of its calls.
-/

set_option autoImplicit false

namespace DurableJobs

/-- What a handler is told about the job it works for. -/
structure JobContext where
  jobId : Int
  jobType : String
  tenantId : Option String
  attempt : Int
  deriving DecidableEq, Repr

def JobContext.ofJob (job : Job) : JobContext :=
  ⟨job.id, job.jobType, job.tenantId, job.attemptCount⟩

/-- How a run of a handler ends. -/
inductive HandlerOutcome where
  | done
  | failed (failure : Failure)
  | panicked
  deriving DecidableEq, Repr

/-- The failure that a panic counts as. -/
def panicFailure : Failure := .other ["job handler panicked"]

/-- The failure of an outcome. -/
def HandlerOutcome.failure? : HandlerOutcome → Option Failure
  | .done => none
  | .failed failure => some failure
  | .panicked => some panicFailure

/-- What a call of a handler brings at once. -/
inductive Reaction where
  | answered (outcome : HandlerOutcome)
  | waiting
  deriving DecidableEq, Repr

structure Handler (σ : Type) where
  /-- The call itself. -/
  call : JobContext → List UInt8 → σ → Reaction × σ
  /-- A waiting call looks again: its outcome, if there is one now. -/
  resume : JobContext → σ → Option (HandlerOutcome × σ)

namespace Handler

variable {σ : Type}

/-- A handler that never waits. -/
def immediate (run : JobContext → List UInt8 → σ → HandlerOutcome × σ) : Handler σ where
  call context payload s :=
    let (outcome, s) := run context payload s
    (.answered outcome, s)
  resume _ _ := none

end Handler

/-- The handlers by type, sorted by type. -/
structure Registry (σ : Type) where
  handlers : Keyed (Handler σ)

namespace Registry

variable {σ : Type}

def empty : Registry σ := ⟨[]⟩

/-- Put a handler in for a type, in place of the one that was there. -/
def register (registry : Registry σ) (jobType : String) (handler : Handler σ) : Registry σ :=
  ⟨registry.handlers.put jobType handler⟩

def get? (registry : Registry σ) (jobType : String) : Option (Handler σ) :=
  registry.handlers.lookup jobType

def contains (registry : Registry σ) (jobType : String) : Bool := (registry.get? jobType).isSome

/-- The types that have a handler, sorted. -/
def jobTypes (registry : Registry σ) : List String := registry.handlers.map (·.1)

/-- Call the handler of a job's type; a type without one is a failure of the job. -/
def dispatch (registry : Registry σ) (context : JobContext) (payload : List UInt8) (s : σ) :
    Reaction × σ :=
  match registry.get? context.jobType with
  | some handler => handler.call context payload s
  | none => (.answered (.failed (.unknownType context.jobType)), s)

/-- A call that waits looks again. -/
def resume (registry : Registry σ) (context : JobContext) (s : σ) : Option (HandlerOutcome × σ) :=
  (registry.get? context.jobType).bind fun handler => handler.resume context s

end Registry

end DurableJobs
