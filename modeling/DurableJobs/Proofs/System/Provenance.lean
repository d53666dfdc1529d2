import DurableJobs.Proofs.Store.Verdicts
import DurableJobs.Proofs.System.Tasks

/-!
# Where results come from

A completed row, an entry of the ledger and a dead letter are all that is left of a job, often long
after the task that wrote them is gone, and another task may have written them than the one that called
the handler. Nothing of it is made up: work that counts as done has been done (`Done`), and a job that
was given up has failed when its chances were used up (`GivenUp`), whatever crashed, was taken back or
could not be read in between.

The law of a run is `Accounted`. Besides the tables it speaks about the tasks that are about to write,
since what they have heard is all that vouches for what they write.
-/

set_option autoImplicit false

namespace DurableJobs

open Store (Operation)

variable {σ : Type}

/-- The operations that count a job as done or give it up for good. -/
def Store.Operation.concludes : Operation → Bool
  | .markCompleted _ | .recordProcessed _ | .completeProcessed _ | .archive _ _ => true
  | _ => false

/-- It is left to the tasks to count jobs as done or to give them up. -/
def Turn.leavesConclusions (turn : Turn σ) : Bool :=
  match turn.action with
  | .ask operation => !operation.concludes
  | _ => true

namespace Occurrence

/-- A task of a processor hears from its handler. -/
def Hears (e : Occurrence σ) (p : Processor σ) (task : Task) (outcome : HandlerOutcome) : Prop :=
  ∃ k n, e.Steps k n task ∧ e.before.processors[k]? = some p ∧
    p.outcome? task.job task.phase = some outcome

end Occurrence

/-- A handler has been called for the job and was done. -/
def Done (history : List (Occurrence σ)) (id : Int) : Prop :=
  ∃ e ∈ history, ∃ p task, e.Hears p task .done ∧ task.job.id = id

/-- A handler has been called for the job and failed when the job was not to be tried again. -/
def GivenUp (history : List (Occurrence σ)) (id : Int) : Prop :=
  ∃ e ∈ history, ∃ p task outcome, e.Hears p task outcome ∧ outcome ≠ .done ∧ task.job.id = id ∧
    p.config.deadLetters.shouldMove task.job e.now = true

/-- The task is about to write that its job is done. -/
def Phase.vouches : Phase → Bool
  | .confirming | .completing => true
  | _ => false

/-- The task is about to give its job up. -/
def Phase.condemns : Phase → Bool
  | .archiving _ => true
  | _ => false

/-- Whatever is written about the end of a job, or about to be written, has been heard from a handler.
-/
structure Accounted (history : List (Occurrence σ)) (w : World σ) : Prop where
  ordered : w.tables.Ordered
  recorded : ∀ id, w.tables.isRecorded id = true → Done history id
  completed : ∀ id, w.tables.standing id = some Status.completed.name → Done history id
  vouched : ∀ k n task, w.task? k n = some task → task.phase.vouches = true → Done history task.job.id
  archived : ∀ letter ∈ w.tables.deadLetters, GivenUp history letter.originalJobId
  condemned : ∀ k n task, w.task? k n = some task → task.phase.condemns = true →
    GivenUp history task.job.id

theorem Accounted.start : Accounted [] (World.empty : World σ) where
  ordered := Store.Tables.empty_ordered
  recorded _ h := nomatch h
  completed _ h := nomatch h
  vouched _ _ _ h := nomatch h
  archived _ h := nomatch h
  condemned _ _ _ h := nomatch h

variable {history : List (Occurrence σ)} {e : Occurrence σ} {id : Int}

theorem Done.snoc (h : Done history id) : Done (history ++ [e]) id := by
  obtain ⟨e', he', rest⟩ := h
  exact ⟨e', List.mem_append_left _ he', rest⟩

theorem GivenUp.snoc (h : GivenUp history id) : GivenUp (history ++ [e]) id := by
  obtain ⟨e', he', rest⟩ := h
  exact ⟨e', List.mem_append_left _ he', rest⟩

theorem concludes_of_routine {operation : Operation} (h : operation.routine = true) :
    operation.concludes = false := by
  cases operation <;> first | rfl | exact nomatch h

/-- Conclusions come from tasks. -/
theorem Occurrence.task_concludes (hturn : e.act.leavesConclusions = true) {operation : Operation}
    (hop : e.operation? = some operation) (hconcludes : operation.concludes = true) :
    ∃ k n task, e.before.task? k n = some task ∧ task.operation? e.now = some operation := by
  rcases e.asked hop with haction | ⟨k, n, task, hsteps, htask⟩ | hroutine
  · rw [Turn.leavesConclusions, haction] at hturn
    simp [hconcludes] at hturn
  · exact ⟨k, n, task, hsteps.2, htask⟩
  · rw [concludes_of_routine hroutine] at hconcludes
    cases hconcludes

/-- A task that counts its job as done is one that may. -/
theorem Task.vouches_of_operation {task : Task} {now : Instant}
    (h : task.operation? now = some (.markCompleted id) ∨
      task.operation? now = some (.completeProcessed id)) :
    task.phase.vouches = true ∧ task.job.id = id := by
  unfold Task.operation? at h
  split at h <;> rcases h with h | h <;> cases h
  all_goals
    next hphase =>
      rw [hphase]
      exact ⟨rfl, rfl⟩

theorem Task.condemns_of_operation {task : Task} {now : Instant} {job : Job} {message : String}
    (h : task.operation? now = some (.archive job message)) :
    task.phase.condemns = true ∧ task.job = job := by
  unfold Task.operation? at h
  split at h <;> cases h
  next hphase =>
    rw [hphase]
    exact ⟨rfl, rfl⟩

namespace Accounted

/-- Who counts a job as done has heard that it is. -/
theorem done_of_operation (h : Accounted history e.before) (hturn : e.act.leavesConclusions = true)
    (hop : e.operation? = some (.markCompleted id) ∨ e.operation? = some (.completeProcessed id)) :
    Done history id := by
  obtain ⟨k, n, task, htask, hasks⟩ : ∃ k n task, e.before.task? k n = some task ∧
      (task.operation? e.now = some (.markCompleted id) ∨
        task.operation? e.now = some (.completeProcessed id)) := by
    rcases hop with hop | hop
    · obtain ⟨k, n, task, htask, hasks⟩ := Occurrence.task_concludes hturn hop rfl
      exact ⟨k, n, task, htask, Or.inl hasks⟩
    · obtain ⟨k, n, task, htask, hasks⟩ := Occurrence.task_concludes hturn hop rfl
      exact ⟨k, n, task, htask, Or.inr hasks⟩
  obtain ⟨hvouches, rfl⟩ := Task.vouches_of_operation hasks
  exact h.vouched k n task htask hvouches

theorem recorded_next (h : Accounted history e.before) (hturn : e.act.leavesConclusions = true)
    (hid : e.after.tables.isRecorded id = true) : Done (history ++ [e]) id := by
  rcases e.tables_cases with ⟨-, hsame⟩ | ⟨operation, reply, hop, -, hchange⟩
  · rw [hsame] at hid
    exact (h.recorded id hid).snoc
  · rcases hchange.ledger_grows hid with hold | rfl | rfl
    · exact (h.recorded id hold).snoc
    · -- a task never records without completing, and to others it is left to the tasks
      obtain ⟨k, n, task, -, hasks⟩ := Occurrence.task_concludes hturn hop rfl
      unfold Task.operation? at hasks
      split at hasks <;> cases hasks
    · exact (h.done_of_operation hturn (Or.inr hop)).snoc

theorem completed_next (h : Accounted history e.before) (hturn : e.act.leavesConclusions = true)
    (hid : e.after.tables.standing id = some Status.completed.name) : Done (history ++ [e]) id := by
  rcases e.tables_cases with ⟨-, hsame⟩ | ⟨operation, reply, hop, -, hchange⟩
  · rw [hsame] at hid
    exact (h.completed id hid).snoc
  · rcases (hchange.fate h.ordered id).completed_by hid with hold | rfl | rfl
    · exact (h.completed id hold).snoc
    · exact (h.done_of_operation hturn (Or.inl hop)).snoc
    · exact (h.done_of_operation hturn (Or.inr hop)).snoc

theorem archived_next (h : Accounted history e.before) (hturn : e.act.leavesConclusions = true)
    {letter : DeadLetter} (hletter : letter ∈ e.after.tables.deadLetters) :
    GivenUp (history ++ [e]) letter.originalJobId := by
  rcases e.tables_cases with ⟨-, hsame⟩ | ⟨operation, reply, hop, -, hchange⟩
  · rw [hsame] at hletter
    exact (h.archived letter hletter).snoc
  · rcases hchange.archive_grows hletter with hold | ⟨job, message, rfl, rfl⟩
    · exact (h.archived letter hold).snoc
    · obtain ⟨k, n, task, htask, hasks⟩ := Occurrence.task_concludes hturn hop rfl
      obtain ⟨hcondemns, rfl⟩ := Task.condemns_of_operation hasks
      exact (h.condemned k n task htask hcondemns).snoc

/-- A task may count its job as done once it has found the entry or heard from its handler. -/
theorem vouched_next (h : Accounted history e.before) {k n : Nat} {task : Task}
    (hafter : e.after.task? k n = some task) (hvouches : task.phase.vouches = true) :
    Done (history ++ [e]) task.job.id := by
  have hfate := e.taskFate k n
  rw [hafter] at hfate
  generalize hbefore : e.before.task? k n = task? at hfate
  cases hfate with
  | kept => exact (h.vouched k n task hbefore hvouches).snoc
  | rested => exact (h.vouched k n task hbefore hvouches).snoc
  | spawned => cases hvouches
  | moved p old phase hsteps hp hleads =>
    dsimp only at hvouches ⊢
    generalize hphase : old.phase = before at hleads
    cases hleads with
    | found hreply => exact (h.recorded _ (Occurrence.look_spec hsteps hphase hreply)).snoc
    | succeeded _ hears => exact ⟨e, by simp, p, old, ⟨k, n, hsteps, hp, hphase ▸ hears⟩, rfl⟩
    | looked _ _ _ hnext => rcases hnext with rfl | rfl | rfl <;> cases hvouches
    | _ => cases hvouches

/-- A task gives its job up once its handler has failed too often or too late. -/
theorem condemned_next (h : Accounted history e.before) {k n : Nat} {task : Task}
    (hafter : e.after.task? k n = some task) (hcondemns : task.phase.condemns = true) :
    GivenUp (history ++ [e]) task.job.id := by
  have hfate := e.taskFate k n
  rw [hafter] at hfate
  generalize hbefore : e.before.task? k n = task? at hfate
  cases hfate with
  | kept => exact (h.condemned k n task hbefore hcondemns).snoc
  | rested => exact (h.condemned k n task hbefore hcondemns).snoc
  | spawned => cases hcondemns
  | moved p old phase hsteps hp hleads =>
    dsimp only at hcondemns ⊢
    generalize hphase : old.phase = before at hleads
    cases hleads with
    | condemned _ outcome failure hears hfails hfinal =>
      refine ⟨e, by simp, p, old, outcome, ⟨k, n, hsteps, hp, hphase ▸ hears⟩, ?_, rfl, hfinal⟩
      rintro rfl
      cases hfails
    | looked _ _ _ hnext => rcases hnext with rfl | rfl | rfl <;> cases hcondemns
    | _ => cases hcondemns

theorem next (h : Accounted history e.before) (hturn : e.act.leavesConclusions = true) :
    Accounted (history ++ [e]) e.after where
  ordered := e.ordered h.ordered
  recorded _ := h.recorded_next hturn
  completed _ := h.completed_next hturn
  vouched _ _ _ := h.vouched_next
  archived _ := h.archived_next hturn
  condemned _ _ _ := h.condemned_next

end Accounted

theorem accounted_run (turns : List (Turn σ)) (hturns : ∀ turn ∈ turns, turn.leavesConclusions = true) :
    Accounted (World.empty.occurrences turns) (World.empty.actAll turns) :=
  Run.invariant Accounted.start
    (fun _ w turn hturn h => Accounted.next (e := ⟨w, turn⟩) h hturn) turns hturns

/-- **Where results come from.** In every run in which conclusions are left to the tasks: for a job that
is completed or recorded a handler has been called and was done, and for a job with a dead letter one
has been called and failed or panicked, when the attempts of the claim were used up or the job was too
old. -/
theorem results_are_heard (turns : List (Turn σ))
    (hturns : ∀ turn ∈ turns, turn.leavesConclusions = true) :
    (∀ id, (World.empty.actAll turns).tables.standing id = some Status.completed.name ∨
        (World.empty.actAll turns).tables.isRecorded id = true →
      ∃ e ∈ World.empty.occurrences turns, ∃ p task, e.Hears p task .done ∧ task.job.id = id) ∧
    ∀ letter ∈ (World.empty.actAll turns).tables.deadLetters,
      ∃ e ∈ World.empty.occurrences turns, ∃ p task outcome, e.Hears p task outcome ∧
        outcome ≠ .done ∧ task.job.id = letter.originalJobId ∧
        (task.job.maxAttempts ≤ task.job.attemptCount ∨
          p.config.deadLetters.staleAfter < e.now.since task.job.createdAt) := by
  have hall := accounted_run turns hturns
  refine ⟨fun id hid => hid.elim (hall.completed id) (hall.recorded id), fun letter hletter => ?_⟩
  obtain ⟨e, he, p, task, outcome, hears, hfails, hid, hmove⟩ := hall.archived letter hletter
  refine ⟨e, he, p, task, outcome, hears, hfails, hid, ?_⟩
  simpa [DeadLetterPolicy.shouldMove, JobOf.attemptsExhausted, attemptsExhausted] using hmove

/-- A job that is done, and one whose only attempt panics. -/
def doneAndGivenUp : List (Turn Unit) :=
  [.quiet 0 (.launch ProcessorConfig.standard
    ((Registry.empty.register "a" (.immediate fun _ _ s => (.done, s))).register "b"
      (.immediate fun _ _ s => (.panicked, s))) .standard ()),
   .quiet 0 (.enqueue "a"),
   .quiet 0 (.ask (.enqueue ⟨"b", [], none, none, some 1, none⟩ Store.standardMaxAttempts)),
   .quiet 1 (.act 0 .claim),
   .quiet 1 (.act 0 .claim),
   .quiet 1 (.act 0 (.step 0 0)),
   .quiet 1 (.act 0 (.step 1 0)),
   .quiet 1 (.act 0 (.step 0 0)),
   .quiet 1 (.act 0 (.step 1 0)),
   .quiet 1 (.act 0 (.step 0 0)),
   .quiet 1 (.act 0 (.step 1 0)),
   .quiet 1 (.act 0 (.step 0 0)),
   .quiet 1 (.act 0 (.step 1 0))]

theorem results_are_heard_of_both :
    (World.empty.actAll doneAndGivenUp).tables.standing 1 = some Status.completed.name ∧
    (World.empty.actAll doneAndGivenUp).tables.deadLetters.map (·.originalJobId) = [2] ∧
    (∃ e ∈ World.empty.occurrences doneAndGivenUp, ∃ p task, e.Hears p task .done ∧ task.job.id = 1) ∧
    ∀ letter ∈ (World.empty.actAll doneAndGivenUp).tables.deadLetters,
      ∃ e ∈ World.empty.occurrences doneAndGivenUp, ∃ p task outcome, e.Hears p task outcome ∧
        outcome ≠ .done ∧ task.job.id = letter.originalJobId ∧
        (task.job.maxAttempts ≤ task.job.attemptCount ∨
          p.config.deadLetters.staleAfter < e.now.since task.job.createdAt) := by
  have hcompleted : (World.empty.actAll doneAndGivenUp).tables.standing 1 =
      some Status.completed.name := by decide
  obtain ⟨hdone, hletters⟩ := results_are_heard doneAndGivenUp (by decide)
  exact ⟨hcompleted, by decide, hdone 1 (Or.inl hcompleted), hletters⟩

end DurableJobs
