import DurableJobs.Admission.Limiter
import DurableJobs.Handler.Registry
import DurableJobs.Metrics
import DurableJobs.Notify.Channel
import DurableJobs.Numeric.Width
import DurableJobs.Retry.Backoff
import DurableJobs.Store.DeadLetters

/-!
# Tasks of a processor

A processor runs a task for each job it has claimed. A task goes through phases, and
`Processor.step` takes it from one phase to the next: each step is at most one call to the store, one
look at the gate, or one call of a handler. Between two steps of a task anything may happen, other
tasks, other processors and a crash of this one included, so this is the grain at which runs
interleave.

What a task does with the outcome of its handler is decided in one place, `Processor.settle`.
-/

set_option autoImplicit false

namespace DurableJobs

/-- A reading of the clocks: the time of day, and nanoseconds on a clock that never goes back. -/
structure Moment where
  wall : Instant
  ticks : Nat
  deriving DecidableEq, Repr, Inhabited

/-- When jobs become dead letters, and how long those are kept. Spans are in nanoseconds and may be
negative. -/
structure DeadLetterPolicy where
  /-- The attempts a dead letter gets when it is processed again. -/
  maxAttempts : Int
  staleAfter : Int
  retention : Int
  deriving DecidableEq, Repr

namespace DeadLetterPolicy

def secondNanos : Int := 1000000000

def standard : DeadLetterPolicy := ⟨5, 24 * 3600 * secondNanos, 14 * 86400 * secondNanos⟩

/-- A failed job is archived when its attempts are used up or when it is older than the stale age. -/
def shouldMove (policy : DeadLetterPolicy) (job : Job) (now : Instant) : Bool :=
  job.attemptsExhausted || policy.staleAfter < now.since job.createdAt

end DeadLetterPolicy

structure ProcessorConfig where
  /-- How often the store is looked at without a notification. -/
  pollInterval : Span
  claimBatchSize : Nat
  backoff : Backoff
  strategy : Backoff.Strategy
  deadLetters : DeadLetterPolicy
  deriving Repr

namespace ProcessorConfig

def standard : ProcessorConfig :=
  ⟨Span.ofSeconds 1, 10, Backoff.standard, .fullJitter, DeadLetterPolicy.standard⟩

end ProcessorConfig

/-- Where a task stands. -/
inductive Phase where
  /-- About to ask the ledger. -/
  | checking
  /-- The work has been done before: about to complete the row. -/
  | confirming
  /-- About to ask for admission. -/
  | asking
  /-- Waiting at the gate. -/
  | queued
  /-- Admitted, about to call the handler. -/
  | admitted
  /-- The handler was called and has not answered. -/
  | running
  /-- The handler is done: about to record it. -/
  | completing
  /-- Recorded: about to tell the world. -/
  | announcing
  /-- Failed for good: about to archive. -/
  | archiving (message : String)
  /-- Could not be archived: about to be marked failed. -/
  | burying (message : String)
  /-- Failed: about to be put off. -/
  | rescheduling (message : String) (delay : Span)
  /-- About to give its permit back. -/
  | releasing
  | ended
  deriving DecidableEq, Repr

/-- The next step is a call to the store. -/
def Phase.callsStore : Phase → Bool
  | .checking | .confirming | .completing | .archiving _ | .burying _ | .rescheduling _ _ => true
  | _ => false

structure Task where
  number : Nat
  /-- The job as it was claimed. -/
  job : Job
  phase : Phase
  deriving DecidableEq, Repr

/-- A processor with its tasks. `σ` is the state of the handlers' collaborators. -/
structure Processor (σ : Type) where
  config : ProcessorConfig
  registry : Registry σ
  /-- Tasks ask under their numbers, and share one cancellation. -/
  limiter : Admission.Limiter Nat Unit
  tasks : List Task
  nextTask : Nat
  /-- A wake-up is stored. There is room for one. -/
  wakeUp : Bool
  cancelled : Bool
  notifications : List Notification
  metrics : Metrics
  collaborators : σ

namespace Processor

variable {σ : Type}

def create (config : ProcessorConfig) (registry : Registry σ)
    (limiter : Admission.Limiter Nat Unit) (collaborators : σ) : Processor σ :=
  { config, registry, limiter, tasks := [], nextTask := 0, wakeUp := false, cancelled := false,
    notifications := [], metrics := Metrics.zero, collaborators }

/-- Cancel: no more claims, and whoever waits at the gate is turned away. -/
def cancel (p : Processor σ) : Processor σ :=
  { p with cancelled := true, limiter := p.limiter.cancel () }

/-- Store a wake-up; a second one is lost in the first. -/
def notify (p : Processor σ) : Processor σ := { p with wakeUp := true }

def task? (p : Processor σ) (number : Nat) : Option Task := p.tasks.find? (·.number == number)

/-- Move a task to a phase; a task that has ended is forgotten. -/
def moveTo (p : Processor σ) (number : Nat) (phase : Phase) : Processor σ :=
  if phase = .ended then { p with tasks := p.tasks.filter (·.number != number) }
  else
    { p with
      tasks := p.tasks.map fun t => if t.number = number then { t with phase } else t }

/-- Start a task for a claimed job. -/
def spawn (p : Processor σ) (job : Job) : Processor σ :=
  { p with tasks := p.tasks ++ [⟨p.nextTask, job, .checking⟩], nextTask := p.nextTask + 1 }

/-! ## What becomes of an outcome -/

/-- The longest delay that can be added to a time, in nanoseconds: so many milliseconds as 64 bits with
a sign can count. -/
def greatestDelta : Nat := (greatestSigned 64).toNat * 1000000

/-- A span as a signed length, if it is one. -/
def deltaOf? (span : Span) : Option Int :=
  if span.nanos ≤ greatestDelta then some span.nanos else none

/-- When a job that is put off runs again. A delay that leads out of the calendar is no delay. -/
def retryAt (delay : Span) (now : Instant) : Instant :=
  ((deltaOf? delay).bind now.addNanos?).getD now

/-- The delay after a failure: the backoff of the attempt, and no less than a provider asks for. -/
def retryDelay (config : ProcessorConfig) (job : Job) (message : String) (draw : Nat) : Span :=
  let attempt := if 0 ≤ job.attemptCount then job.attemptCount.toNat else 0
  let delay := config.backoff.delay config.strategy attempt draw
  match Retry.rateLimitWait? message with
  | some wait => delay.max wait
  | none => delay

/-- The phase after a handler has ended, and what is counted. -/
def settle (config : ProcessorConfig) (job : Job) (outcome : HandlerOutcome) (now : Instant)
    (draw : Nat) (metrics : Metrics) : Phase × Metrics :=
  match outcome.failure? with
  | none => (.completing, metrics.handled job.jobType true)
  | some failure =>
      let metrics := metrics.handled job.jobType false
      let message := failure.message
      if config.deadLetters.shouldMove job now then (.archiving message, metrics)
      else
        (.rescheduling message (retryDelay config job message draw),
         if failure.isRetryable then metrics.retried job.jobType else metrics)

/-- What is told about a job whose work is done: to its user, or to all. -/
def completion (job : Job) : Notification :=
  ⟨job.tenantUser?, Notification.jobCompleted, job.jobType⟩

/-! ## Steps -/

/-- What a look at the gate leads to. -/
def afterLook : Admission.Answer → Phase
  | .granted => .admitted
  | .waiting => .queued
  | .denied _ => .ended

/-- Handle an outcome. -/
def finish (p : Processor σ) (task : Task) (outcome : HandlerOutcome) (now : Instant)
    (draw : Nat) : Processor σ :=
  let (phase, metrics) := settle p.config task.job outcome now draw p.metrics
  { p with metrics }.moveTo task.number phase

/-- Take a task one step further. `draw` is the random number of a jittered delay. -/
def step (p : Processor σ) (task : Task) (moment : Moment) (draw : Nat) (session : Store.Session) :
    Processor σ × Store.Session :=
  let job := task.job
  let now := moment.wall
  let go (phase : Phase) : Processor σ := p.moveTo task.number phase
  match task.phase with
  | .checking =>
      let (answer, session) := (Store.isProcessed job.id).execute session
      match answer with
      | .ok true => (go .confirming, session)
      | .ok false | .error _ => (go .asking, session)
  | .confirming =>
      let (_, session) := (Store.markCompleted job.id now).execute session
      (go .ended, session)
  | .asking =>
      let (answer, limiter) := p.limiter.acquire task.number job.jobType () moment.ticks
      ({ p with limiter }.moveTo task.number (afterLook answer), session)
  | .queued =>
      let (answer, limiter) := p.limiter.poll task.number moment.ticks
      ({ p with limiter }.moveTo task.number ((answer.map afterLook).getD .ended), session)
  | .admitted =>
      let (reaction, collaborators) :=
        p.registry.dispatch (JobContext.ofJob job) job.payload p.collaborators
      let p := { p with collaborators }
      match reaction with
      | .answered outcome => (p.finish task outcome now draw, session)
      | .waiting => (p.moveTo task.number .running, session)
  | .running =>
      match p.registry.resume (JobContext.ofJob job) p.collaborators with
      | some (outcome, collaborators) =>
          ({ p with collaborators }.finish task outcome now draw, session)
      | none => (p, session)
  | .completing =>
      let (answer, session) := (Store.completeProcessed job.id now).execute session
      match answer with
      | .ok _ => (go .announcing, session)
      | .error _ => (go .releasing, session)
  | .announcing =>
      ({ p with notifications := p.notifications ++ [completion job] }.moveTo task.number .releasing,
       session)
  | .archiving message =>
      let (answer, session) := (Store.archive job message now).execute session
      match answer with
      | .ok _ =>
          ({ p with metrics := p.metrics.deadLettered job.jobType }.moveTo task.number .releasing,
           session)
      | .error _ => (go (.burying message), session)
  | .burying message =>
      let (_, session) := (Store.markDead job.id message now).execute session
      (go .releasing, session)
  | .rescheduling message delay =>
      let (_, session) := (Store.markFailed job.id message (retryAt delay now) now).execute session
      (go .releasing, session)
  | .releasing =>
      let (_, limiter) := p.limiter.release task.number
      ({ p with limiter }.moveTo task.number .ended, session)
  | .ended => (p, session)

/-- Whether a step of a task would change anything: at the gate and in a waiting handler something else
has to come first. -/
def canStep (p : Processor σ) (task : Task) (moment : Moment) : Bool :=
  match task.phase with
  | .queued =>
      match p.limiter.waiter? task.number with
      | some waiter => p.limiter.canProgress waiter moment.ticks
      | none => true
  | .running => (p.registry.resume (JobContext.ofJob task.job) p.collaborators).isSome
  | .ended => false
  | _ => true

/-! ## Claiming -/

/-- How a try to claim ends. -/
inductive ClaimResult where
  | claimed (job : Job)
  | stopped
  deriving Repr

/-- One try to claim the next due job, and a task for it. A cancelled processor does not try. -/
def claim (p : Processor σ) (moment : Moment) (session : Store.Session) :
    ClaimResult × Processor σ × Store.Session :=
  if p.cancelled then (.stopped, p, session)
  else
    let (answer, session) := (Store.claimNext moment.wall).execute session
    match answer with
    | .ok (some job) => (.claimed job, p.spawn job, session)
    | .ok none | .error _ => (.stopped, p, session)

end Processor

end DurableJobs
