/-!
# Shutting workers down

A manager starts workers one by one, and they share one cancellation. Shutting down raises it for all of
them first and then visits them in the order in which they were started, waiting for each for a bounded
time of its own. Whoever has not ended by then is aborted, and nothing that a worker does, an error or a
panic of it included, keeps the others from being visited.

Times are counted in nanoseconds from the moment at which the manager is there. Only waits take time, so
when a worker ends depends on when it was started and when the cancellation was raised, and on nothing
else.
-/

set_option autoImplicit false

namespace DurableJobs.Worker

/-! ## Workers -/

/-- How a worker that ends by itself ends. -/
inductive Ending where
  | finished
  | failed
  | panicked
  deriving DecidableEq, Repr

/-- When a worker ends, and how: so long after it was started, whether or not it is cancelled, or so long
after it is cancelled; a stuck one never does. -/
inductive Course where
  | alone (after : Nat) (ending : Ending)
  | ends (after : Nat) (ending : Ending)
  | stuck
  deriving DecidableEq, Repr

/-- A worker that has been started. -/
structure Handle where
  name : String
  started : Nat
  course : Course
  deriving DecidableEq, Repr

/-- The end of a worker, when the cancellation was raised at a time or has not been. One that is started
after that is cancelled from the start. -/
def Handle.end? (raised : Option Nat) (worker : Handle) : Option (Nat × Ending) :=
  match worker.course with
  | .alone after ending => some (worker.started + after, ending)
  | .ends after ending => raised.map fun t => (max worker.started t + after, ending)
  | .stuck => none

/-! ## Visits -/

/-- What became of a worker, and when its visit was over. -/
inductive Outcome where
  | stopped (at_ : Nat) (ending : Ending)
  | aborted (at_ : Nat)
  deriving DecidableEq, Repr

def Outcome.time : Outcome → Nat
  | .stopped t _ => t
  | .aborted t => t

/-- Wait for an end from a time on, until it comes or the timeout is over. An end that has come by then is
met, however short the timeout is. -/
def wait (timeout start : Nat) : Option (Nat × Ending) → Outcome
  | some (at_, ending) =>
      if at_ ≤ start + timeout then .stopped (max start at_) ending else .aborted (start + timeout)
  | none => .aborted (start + timeout)

theorem start_le_wait (timeout start : Nat) (end? : Option (Nat × Ending)) :
    start ≤ (wait timeout start end?).time := by
  unfold wait
  split
  · split
    · exact Nat.le_max_left _ _
    · exact Nat.le_add_right _ _
  · exact Nat.le_add_right _ _

/-- A worker, when its visit began, and what became of it. -/
structure Visit where
  worker : Handle
  start : Nat
  outcome : Outcome
  deriving DecidableEq, Repr

/-- What a manager does while it shuts down. -/
inductive Note where
  | cancelled (at_ : Nat)
  | visited (visit : Visit)
  | returned (at_ : Nat)
  deriving DecidableEq, Repr

/-! ## The manager -/

structure Manager where
  clock : Nat
  /-- When the cancellation was raised, by whomever. -/
  raised : Option Nat
  raised_le : ∀ t, raised = some t → t ≤ clock
  handles : List Handle
  /-- What it has done, in order. -/
  log : List Note

namespace Manager

def new : Manager where
  clock := 0
  raised := none
  raised_le _ h := by cases h
  handles := []
  log := []

/-- Start a worker. -/
def spawn (m : Manager) (name : String) (course : Course) : Manager :=
  { m with handles := m.handles ++ [⟨name, m.clock, course⟩] }

/-- Time passes. -/
def pass (m : Manager) (duration : Nat) : Manager :=
  { m with
    clock := m.clock + duration
    raised_le := fun t h => Nat.le_add_right_of_le (m.raised_le t h) }

/-- Raise the cancellation. Raising it again changes nothing. -/
def cancel (m : Manager) : Manager :=
  { m with
    raised := some (m.raised.getD m.clock)
    raised_le := fun t h => by
      cases hraised : m.raised with
      | none =>
        rw [hraised] at h
        cases h
        exact Nat.le_refl _
      | some t' =>
        rw [hraised] at h
        cases h
        exact m.raised_le _ hraised }

def note (m : Manager) (entry : Note) : Manager := { m with log := m.log ++ [entry] }

/-- Visit a worker: wait for it, and abort it if it does not end in time. -/
def visit (timeout : Nat) (m : Manager) (worker : Handle) : Manager :=
  let outcome := wait timeout m.clock (worker.end? m.raised)
  { m with
    clock := outcome.time
    raised_le := fun t h => Nat.le_trans (m.raised_le t h) (start_le_wait _ _ _)
    log := m.log ++ [.visited ⟨worker, m.clock, outcome⟩] }

/-- Raise the cancellation and visit all workers. -/
def shutdown (timeout : Nat) (m : Manager) : Manager :=
  let m := m.cancel.note (.cancelled m.clock)
  let m := m.handles.foldl (visit timeout) m
  m.note (.returned m.clock)

/-- Wait for the signal, or find that one cannot wait for it, and shut down. -/
def waitForShutdown (timeout : Nat) (signal? : Option Nat) (m : Manager) : Manager :=
  (m.pass (signal?.getD 0)).shutdown timeout

/-- What became of the workers that have been visited. -/
def outcomes (m : Manager) : List Outcome :=
  m.log.filterMap fun
    | .visited visit => some visit.outcome
    | .cancelled _ | .returned _ => none

end Manager

/-- Start workers, shut them down, and say what became of them. -/
def shutdown (timeout : Nat) (courses : List Course) : List Outcome :=
  ((courses.foldl (fun m course => m.spawn "" course) Manager.new).shutdown timeout).outcomes

end DurableJobs.Worker
