import DurableJobs.DeadLetters
import DurableJobs.Producer
import DurableJobs.Worker.Reaper

/-!
# A processor at work

`Processor.step` says what a task may do next; this module says when. One connection serves the calls to
the store in the order in which they were asked for, and whoever was served goes on by itself until its
next call. The loop that claims is one more asker: it asks for its next claim before the task it has
just started asks for anything.

Every call reads the clock anew, and the clock never shows the same time twice.
-/

set_option autoImplicit false

namespace DurableJobs

namespace Moment

/-- A reading so many nanoseconds later. -/
def after (m : Moment) (nanos : Nat) : Moment :=
  ⟨(m.wall.addNanos? nanos).getD m.wall, m.ticks + nanos⟩

/-- What lies between two readings. -/
def grain : Nat := 1000

end Moment

/-- A processor, its store and its clock. -/
structure Runtime (σ : Type) where
  tables : Store.Tables
  processor : Processor σ
  clock : Moment
  /-- The tasks that have asked for a call to the store, in order. -/
  ready : List Nat
  defaultMaxAttempts : Int
  zombieTimeout : Span

namespace Runtime

variable {σ : Type}

/-- Read the clock. -/
def tick (r : Runtime σ) : Moment × Runtime σ :=
  let next := r.clock.after Moment.grain
  (next, { r with clock := next })

/-- Run something on the store at a new reading of the clock. -/
def withStore {α : Type} (r : Runtime σ)
    (run : Moment → Processor σ → Store.Session → α × Processor σ × Store.Session) : α × Runtime σ :=
  let (moment, r) := r.tick
  let (answer, processor, session) := run moment r.processor ⟨r.tables, []⟩
  (answer, { r with processor, tables := session.tables })

/-- One step of a task. The draw of a jittered delay is taken from the clock. -/
def stepTask (r : Runtime σ) (task : Task) : Runtime σ :=
  (r.withStore fun moment processor session =>
    let (processor, session) := processor.step task moment moment.ticks session
    ((), processor, session)).2

/-- Let a task go on until its next call to the store, its end, or something it waits for. The answer
says whether it asks for a call. -/
def goOn (number : Nat) : Nat → Runtime σ → Bool × Runtime σ
  | 0, r => (false, r)
  | fuel + 1, r =>
      match r.processor.task? number with
      | none => (false, r)
      | some task =>
          if task.phase.callsStore then (true, r)
          else if r.processor.canStep task r.clock then goOn number fuel (r.stepTask task)
          else (false, r)

/-- A task has no more phases than this between two calls to the store. -/
def phases : Nat := 16

/-- Let a task go on, and queue it if it asks for a call. -/
def resume (r : Runtime σ) (number : Nat) : Runtime σ :=
  let (asks, r) := goOn number phases r
  if asks then { r with ready := r.ready ++ [number] } else r

/-- Let the tasks go on that something they waited for has come to, in order of their numbers. -/
def wake (r : Runtime σ) : Runtime σ :=
  (r.processor.tasks.filter fun task => !task.phase.callsStore).foldl
    (fun r task => r.resume task.number) r

/-- Serve the call of a task and let it go on. -/
def serve (r : Runtime σ) (number : Nat) : Runtime σ :=
  match r.processor.task? number with
  | none => r
  | some task => ((r.stepTask task).resume number).wake

/-- Serve the calls that have been asked for, and those they lead to. -/
def settleFor : Nat → Runtime σ → Runtime σ
  | 0, r => r
  | fuel + 1, r =>
      match r.ready with
      | [] => r
      | number :: ready => settleFor fuel ({ r with ready }.serve number)

/-- No task makes more calls to the store than this. -/
def callsPerTask : Nat := 5

/-- Run until nobody can go on. -/
def settle (r : Runtime σ) : Runtime σ :=
  let r := r.wake
  settleFor (callsPerTask * (r.processor.tasks.length + 1)) r

/-! ## Claiming -/

/-- Who waits for the connection: the loop that claims, or a task. -/
inductive Asker where
  | claimer
  | task (number : Nat)
  deriving DecidableEq, Repr

def tasksOf (askers : List Asker) : List Nat :=
  askers.filterMap fun
    | .claimer => none
    | .task number => some number

/-- Serve askers until the claimer is through; the tasks that are left stay queued. -/
def claimFor : Nat → Nat → List Asker → Runtime σ → Nat × Runtime σ
  | 0, claimed, askers, r => (claimed, { r with ready := tasksOf askers })
  | _ + 1, claimed, [], r => (claimed, r)
  | fuel + 1, claimed, .task number :: askers, r =>
      let r := { r with ready := [] }.serve number
      claimFor fuel claimed (askers ++ r.ready.map .task) { r with ready := [] }
  | fuel + 1, claimed, .claimer :: askers, r =>
      if r.processor.config.claimBatchSize ≤ claimed then
        (claimed, { r with ready := tasksOf askers })
      else
        let spawned := r.processor.nextTask
        let (result, r) := r.withStore fun moment processor session =>
          processor.claim moment session
        match result with
        | .stopped => (claimed, { r with ready := tasksOf askers })
        | .claimed _ =>
            if r.processor.config.claimBatchSize ≤ claimed + 1 then
              (claimed + 1, { r with ready := tasksOf askers ++ [spawned] })
            else claimFor fuel (claimed + 1) (askers ++ [.claimer, .task spawned]) r

/-- Claim due jobs, as many as a batch holds, and start a task for each: how many were claimed. -/
def processNext (r : Runtime σ) : Nat × Runtime σ :=
  let rows := r.tables.jobs.length + r.processor.tasks.length + 1
  claimFor ((callsPerTask + 2) * (rows + 1)) 0 (r.ready.map .task ++ [.claimer]) r

/-! ## Waiting -/

/-- How far the clock may be moved for tasks that wait for a token. -/
def patience : Nat := 5000000000

/-- Run all tasks to their ends, moving the clock on to the tokens that are waited for. Says whether
all of them got there. -/
def drainFor : Nat → Nat → Runtime σ → Bool × Runtime σ
  | 0, _, r => (r.processor.tasks.isEmpty, r)
  | fuel + 1, deadline, r =>
      let r := r.settle
      if r.processor.tasks.isEmpty then (true, r)
      else
        match r.processor.limiter.nextTokenAt? with
        | some at_ =>
            if deadline < at_ then (false, r)
            else drainFor fuel deadline { r with clock := r.clock.after (at_ - r.clock.ticks) }
        | none => (false, r)

def drain (r : Runtime σ) : Bool × Runtime σ :=
  drainFor (2 * r.processor.tasks.length + 2) (r.clock.ticks + patience) r

/-! ## Other calls -/

/-- Make a call to the store behind all that has been asked for. -/
def call {α : Type} (r : Runtime σ) (make : Instant → Store.Call α) :
    Except StoreError α × Runtime σ :=
  r.settle.withStore fun moment processor session =>
    let (answer, session) := (make moment.wall).execute session
    (answer, processor, session)

def enqueue (r : Runtime σ) (job : NewJob) : Except StoreError Job × Runtime σ :=
  r.call (Store.enqueue job r.defaultMaxAttempts)

/-- Put a job in and wake the processor. -/
def produce (r : Runtime σ) (job : NewJob) : Except ProducerError Job × Runtime σ :=
  r.settle.withStore fun moment processor session =>
    Producer.enqueue job r.defaultMaxAttempts moment.wall processor session

/-- A pass of the reaper. -/
def rescue (r : Runtime σ) : Except StoreError Nat × Runtime σ :=
  r.settle.withStore fun moment processor session =>
    let (answer, metrics, session) :=
      Reaper.rescue r.zombieTimeout moment.wall processor.metrics session
    (answer, { processor with metrics }, session)

/-- Archive a job as a caller knows it. -/
def moveToDeadLetters (r : Runtime σ) (job : Job) (lastError : String) :
    Except StoreError DeadLetter × Runtime σ :=
  r.settle.withStore fun moment processor session =>
    let (answer, metrics, session) :=
      DeadLetters.move job lastError moment.wall processor.metrics session
    (answer, { processor with metrics }, session)

/-- A pass of the cleanup with the policy's retention. -/
def cleanup (r : Runtime σ) : Except WorkerError Nat × Runtime σ :=
  let (answer, r) := r.call (DeadLetters.cleanup r.processor.config.deadLetters.retention)
  (answer.mapError .store, r)

/-- Take the stored wake-up, if there is one. -/
def takeWakeUp (r : Runtime σ) : Bool × Runtime σ :=
  (r.processor.wakeUp, { r with processor := { r.processor with wakeUp := false } })

def mapProcessor (r : Runtime σ) (change : Processor σ → Processor σ) : Runtime σ :=
  { r with processor := change r.processor }

/-! ## Workers -/

/-- The background workers. -/
inductive Duty where
  | processor
  | reaper
  | cleanup
  deriving DecidableEq, Repr

def Duty.name : Duty → String
  | .processor => "job-processor"
  | .reaper => "zombie-reaper"
  | .cleanup => "dead-letter-cleanup"

/-- One turn of a worker. A pass that fails is tried again at the next turn. -/
def turn (r : Runtime σ) : Duty → Runtime σ
  | .processor => (r.takeWakeUp.2.processNext.2.drain).2
  | .reaper => r.rescue.2
  | .cleanup => r.cleanup.2

/-- How long a turn of all workers takes. -/
def turnNanos : Nat := 10000000

/-- Let workers take turns until a condition holds or the turns are used up; says whether it holds. -/
def workUntil (duties : List Duty) (holds : Store.Tables → Bool) : Nat → Runtime σ → Bool × Runtime σ
  | 0, r => (holds r.tables, r)
  | fuel + 1, r =>
      let r := duties.foldl turn r
      if holds r.tables then (true, r)
      else workUntil duties holds fuel { r with clock := r.clock.after turnNanos }

/-- How many turns workers get. -/
def turns : Nat := 400

/-- Let workers run until a condition holds, and shut them down. -/
def runWorkers (r : Runtime σ) (duties : List Duty) (holds : Store.Tables → Bool) :
    Bool × Runtime σ :=
  let (reached, r) := workUntil duties holds turns r
  (reached, (r.mapProcessor (·.cancel)).drain.2)

end Runtime

end DurableJobs
