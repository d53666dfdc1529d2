import DurableJobs.DeadLetters
import DurableJobs.Producer
import DurableJobs.Proofs.Store.Rows
import DurableJobs.Worker.Reaper

/-!
# The whole system

A `World` is one store and the processors that share it. A run of it is a list of turns, and a turn is
one deed of one processor, or one call of somebody else: so tasks of one processor, processors,
producers and reapers interleave in every way there is, a task may be lost between any two of its steps,
and the database may fail any statement.

The point of this file is `Occurrence.tables_cases`: a turn asks the store for one operation at most,
and its tables change as that operation changes them. What is known of the store from `Change` is known
of the system.
-/

set_option autoImplicit false

namespace DurableJobs

open Store (Tables Operation Reply Session Change)

variable {σ : Type}

/-! ## Deeds -/

/-- What a processor does, or has done to it. -/
inductive Deed (σ : Type) where
  | produce (job : NewJob) (defaultMaxAttempts : Int)
  | rescue (timeout : Span)
  | claim
  /-- Take a task one step further; `draw` is the random number of a jittered delay. -/
  | step (n draw : Nat)
  /-- Lose a task where it stands. -/
  | lose (n : Nat)
  | cancel
  | register (jobType : String) (profile : Admission.Profile)
  /-- The handlers' collaborators change by themselves. -/
  | disturb (collaborators : σ)

namespace Processor

/-- A task that is lost gives up its wait or its permit. Its row stays as it is. -/
def lose (p : Processor σ) (n : Nat) : Processor σ :=
  { p with limiter := ((p.limiter.abandon n).2.release n).2 }.moveTo n .ended

def act (p : Processor σ) (deed : Deed σ) (moment : Moment) (session : Session) :
    Processor σ × Session :=
  match deed with
  | .produce job defaultMaxAttempts =>
      (Producer.enqueue job defaultMaxAttempts moment.wall p session).2
  | .rescue timeout =>
      let (_, metrics, session) := Reaper.rescue timeout moment.wall p.metrics session
      ({ p with metrics }, session)
  | .claim => (p.claim moment session).2
  | .step n draw =>
      match p.task? n with
      | some task => p.step task moment draw session
      | none => (p, session)
  | .lose n => (p.lose n, session)
  | .cancel => (p.cancel, session)
  | .register jobType profile => ({ p with limiter := p.limiter.register jobType profile }, session)
  | .disturb collaborators => ({ p with collaborators }, session)

end Processor

/-- What the next step of a task asks of the store. -/
def Task.operation? (task : Task) (now : Instant) : Option Operation :=
  match task.phase with
  | .checking => some (.isProcessed task.job.id)
  | .confirming => some (.markCompleted task.job.id)
  | .completing => some (.completeProcessed task.job.id)
  | .archiving message => some (.archive task.job message)
  | .burying message => some (.markDead task.job.id message)
  | .rescheduling message delay =>
      some (.markFailed task.job.id message (Processor.retryAt delay now))
  | .asking | .queued | .admitted | .running | .announcing | .releasing | .ended => none

/-- What a deed asks of the store. -/
def Processor.operation? (p : Processor σ) (deed : Deed σ) (now : Instant) : Option Operation :=
  match deed with
  | .produce job defaultMaxAttempts => some (.enqueue job defaultMaxAttempts)
  | .rescue timeout => some (.reclaimStuck (Reaper.age timeout))
  | .claim => if p.cancelled then none else some .claimNext
  | .step n _ => (p.task? n).bind (·.operation? now)
  | .lose _ | .cancel | .register _ _ | .disturb _ => none

/-- The task that a deed takes a step further. -/
def Processor.stepping? (p : Processor σ) : Deed σ → Option Task
  | .step n _ => p.task? n
  | _ => none

/-- The operations that a processor asks for without a task. -/
def Store.Operation.routine : Operation → Bool
  | .enqueue _ _ | .reclaimStuck _ | .claimNext => true
  | _ => false

/-! ## The session behind a deed -/

/-- The tables behind an operation, if one is asked for. -/
def Store.Session.behind (session : Session) (now : Instant) : Option Operation → Tables
  | some operation => ((operation.call now).execute session).2.tables
  | none => session.tables

/-- What an operation is answered, if one is asked for. -/
def Store.Session.reply? (session : Session) (now : Instant) (operation? : Option Operation) :
    Option (Except StoreError Reply) :=
  operation?.map fun operation => ((operation.call now).execute session).1

namespace Processor

/-- A step leaves the tables that its operation leaves. -/
theorem step_tables (p : Processor σ) (task : Task) (moment : Moment) (draw : Nat) (s : Session) :
    (p.step task moment draw s).2.tables = s.behind moment.wall (task.operation? moment.wall) := by
  unfold Processor.step Task.operation?
  cases task.phase <;> simp only [Session.behind, Operation.call, Store.Call.execute_map]
  case checking =>
    rcases ((Store.isProcessed task.job.id).execute s) with ⟨_ | _ | _, after⟩ <;> rfl
  case admitted => split <;> rfl
  case running =>
    split <;> rfl
  case completing =>
    rcases ((Store.completeProcessed task.job.id moment.wall).execute s) with ⟨_ | _, after⟩ <;> rfl
  case archiving message =>
    rcases ((Store.archive task.job message moment.wall).execute s) with ⟨_ | _, after⟩ <;> rfl

/-- **A deed asks for one operation at most**, and leaves the tables that this operation leaves. -/
theorem act_tables (p : Processor σ) (deed : Deed σ) (moment : Moment) (s : Session) :
    (p.act deed moment s).2.tables = s.behind moment.wall (p.operation? deed moment.wall) := by
  cases deed with
  | produce job attempts =>
    simp only [act, operation?, Session.behind, Operation.call, Store.Call.execute_map,
      Producer.enqueue]
    rcases ((Store.enqueue job attempts moment.wall).execute s) with ⟨_ | _, after⟩ <;> rfl
  | rescue timeout =>
    simp only [act, operation?, Session.behind, Operation.call, Store.Call.execute_map,
      Reaper.rescue]
    rcases ((Store.reclaimStuck (Reaper.age timeout) moment.wall).execute s) with ⟨_ | _, after⟩ <;> rfl
  | claim =>
    simp only [act, operation?, Processor.claim]
    split
    · rfl
    · simp only [Session.behind, Operation.call, Store.Call.execute_map]
      rcases ((Store.claimNext moment.wall).execute s) with ⟨_ | _ | _, after⟩ <;> rfl
  | step n draw =>
    simp only [act, operation?]
    cases p.task? n with
    | none => rfl
    | some task => exact p.step_tables task moment draw s
  | lose | cancel | register | disturb => rfl

end Processor

/-! ## Worlds -/

structure World (σ : Type) where
  tables : Tables
  processors : List (Processor σ)

/-- What happens in a turn. -/
inductive Action (σ : Type) where
  /-- Somebody who is no processor asks something of the store. -/
  | ask (operation : Operation)
  /-- A new processor, of this process or another one. -/
  | launch (config : ProcessorConfig) (registry : Registry σ)
      (limiter : Admission.Limiter Nat Unit) (collaborators : σ)
  /-- The processor at a place does something. -/
  | act (k : Nat) (deed : Deed σ)

structure Turn (σ : Type) where
  action : Action σ
  moment : Moment
  /-- Which statements of the turn the database fails. -/
  faults : List Bool

/-- A turn at a whole second in which the database fails nothing. -/
def Turn.quiet (second : Nat) (action : Action σ) : Turn σ :=
  ⟨action, ⟨Store.wholeSecond second, second * 1000000000⟩, []⟩

/-- A turn and the world it meets. -/
abbrev Occurrence (σ : Type) := Event (World σ) (Turn σ)

namespace World

/-- No jobs and no processors. -/
def empty : World σ := ⟨Tables.empty, []⟩

def act (w : World σ) (turn : Turn σ) : World σ :=
  match turn.action with
  | .ask operation => { w with tables := w.tables.after ⟨operation, turn.moment.wall, turn.faults⟩ }
  | .launch config registry limiter collaborators =>
      { w with
        processors := w.processors ++ [Processor.create config registry limiter collaborators] }
  | .act k deed =>
      match w.processors[k]? with
      | none => w
      | some p =>
          let (p, session) := p.act deed turn.moment ⟨w.tables, turn.faults⟩
          ⟨session.tables, w.processors.set k p⟩

/-- The world behind a run. -/
abbrev actAll (w : World σ) (turns : List (Turn σ)) : World σ := Run.final act w turns

/-- The occurrences of a run. -/
abbrev occurrences (w : World σ) (turns : List (Turn σ)) : List (Occurrence σ) :=
  Run.history act w turns

/-- The occurrence that a turn is behind a run. -/
def next (w : World σ) (turns : List (Turn σ)) (turn : Turn σ) : Occurrence σ :=
  ⟨w.actAll turns, turn⟩

/-- A task of the processor at a place. -/
def task? (w : World σ) (k n : Nat) : Option Task := w.processors[k]?.bind (·.task? n)

theorem task?_of_processor {w : World σ} {k : Nat} {p : Processor σ} (hp : w.processors[k]? = some p)
    (n : Nat) : w.task? k n = p.task? n := by
  rw [task?, hp, Option.bind_some]

end World

/-! ## A processor behind a door

What the laws of the system do not promise is shown on runs of one processor. Its handler waits behind a
door, so that a run decides when it answers. -/

/-- A handler that is done once the door is open. -/
def Handler.behindDoor : Handler Bool where
  call _ _ isOpen := (if isOpen then .answered .done else .waiting, isOpen)
  resume _ isOpen := if isOpen then some (.done, isOpen) else none

/-- A processor that works on one job of type `a` at a time, behind a closed door. -/
def Action.launchBehindDoor : Action Bool :=
  .launch ProcessorConfig.standard (Registry.empty.register "a" Handler.behindDoor)
    (.ofProfiles [] ⟨1, Binary64.ofNat 1, 5⟩) false

/-- Somebody enqueues a plain job of a type. -/
def Action.enqueue (jobType : String) : Action σ :=
  .ask (.enqueue ⟨jobType, [], none, none, none, none⟩ Store.standardMaxAttempts)

namespace Occurrence

def now (e : Occurrence σ) : Instant := e.act.moment.wall

def after (e : Occurrence σ) : World σ := e.before.act e.act

/-- What the turn asks of the store. -/
def operation? (e : Occurrence σ) : Option Operation :=
  match e.act.action with
  | .ask operation => some operation
  | .launch _ _ _ _ => none
  | .act k deed => e.before.processors[k]?.bind (·.operation? deed e.now)

/-- The session that the turn opens. -/
def session (e : Occurrence σ) : Session := ⟨e.before.tables, e.act.faults⟩

/-- What the store answers in the turn. -/
def reply? (e : Occurrence σ) : Option (Except StoreError Reply) := e.session.reply? e.now e.operation?

/-- The turn is a step of a task. -/
def Steps (e : Occurrence σ) (k n : Nat) (task : Task) : Prop :=
  (∃ draw, e.act.action = .act k (.step n draw)) ∧ e.before.task? k n = some task

/-- The place of the processor whose task takes a step in this turn, and the task. -/
def stepping? (e : Occurrence σ) : Option (Nat × Task) :=
  match e.act.action with
  | .act k deed => (e.before.processors[k]?.bind (·.stepping? deed)).map (k, ·)
  | _ => none

theorem stepping?_spec {e : Occurrence σ} {k : Nat} {task : Task} (h : e.stepping? = some (k, task)) :
    ∃ n, e.Steps k n task := by
  unfold stepping? at h
  split at h
  · next k' deed haction =>
    obtain ⟨task', hstepping, heq⟩ := Option.map_eq_some_iff.mp h
    cases heq
    obtain ⟨p, hp, htask⟩ := Option.bind_eq_some_iff.mp hstepping
    unfold Processor.stepping? at htask
    split at htask
    · next n draw => exact ⟨n, ⟨draw, haction⟩, (World.task?_of_processor hp n).trans htask⟩
    · cases htask
  · cases h

theorem Steps.stepping? {e : Occurrence σ} {k n : Nat} {task : Task} (h : e.Steps k n task) :
    e.stepping? = some (k, task) := by
  obtain ⟨⟨draw, haction⟩, htask⟩ := h
  obtain ⟨p, hp, hn⟩ := Option.bind_eq_some_iff.mp htask
  simp only [Occurrence.stepping?, haction, hp, Option.bind_some, Processor.stepping?, hn,
    Option.map_some]

/-- A turn is a step of one task at most. -/
theorem Steps.unique {e : Occurrence σ} {k n k' n' : Nat} {task task' : Task} (h : e.Steps k n task)
    (h' : e.Steps k' n' task') : k' = k ∧ n' = n := by
  obtain ⟨⟨draw, haction⟩, -⟩ := h
  obtain ⟨⟨draw', haction'⟩, -⟩ := h'
  cases haction'.symm.trans haction
  exact ⟨rfl, rfl⟩

/-- A step asks for what its task asks for. -/
theorem Steps.operation? {e : Occurrence σ} {k n : Nat} {task : Task} (h : e.Steps k n task) :
    e.operation? = task.operation? e.now := by
  obtain ⟨⟨draw, haction⟩, htask⟩ := h
  obtain ⟨p, hp, hn⟩ := Option.bind_eq_some_iff.mp htask
  simp only [Occurrence.operation?, haction, hp, Option.bind_some, Processor.operation?, hn]

/-- A turn leaves the tables that its operation leaves. -/
theorem after_tables (e : Occurrence σ) :
    e.after.tables = e.session.behind e.now e.operation? := by
  unfold Occurrence.after World.act Occurrence.operation?
  split
  · rfl
  · rfl
  · next k deed _ =>
    cases hp : e.before.processors[k]? with
    | none => rfl
    | some p => exact p.act_tables deed e.act.moment e.session

/-- **One operation a turn**: the tables stay as they are, or an operation is asked for and changes
them. -/
theorem tables_cases (e : Occurrence σ) :
    (e.operation? = none ∧ e.after.tables = e.before.tables) ∨
    ∃ operation reply, e.operation? = some operation ∧ e.reply? = some reply ∧
      Change e.now e.before.tables operation reply e.after.tables := by
  rw [e.after_tables]
  cases hop : e.operation? with
  | none => exact Or.inl ⟨rfl, rfl⟩
  | some operation =>
    refine Or.inr ⟨operation, _, rfl, ?_, Store.operation_change operation e.now e.session⟩
    rw [Occurrence.reply?, hop]
    rfl

/-- What is asked and answered in a turn changes its tables. -/
theorem change {e : Occurrence σ} {operation : Operation} {reply : Except StoreError Reply}
    (hop : e.operation? = some operation) (hreply : e.reply? = some reply) :
    Change e.now e.before.tables operation reply e.after.tables := by
  rcases e.tables_cases with ⟨hnone, -⟩ | ⟨operation', reply', hop', hreply', hchange⟩
  · rw [hop] at hnone
    cases hnone
  · rw [hop] at hop'
    rw [hreply] at hreply'
    cases hop'
    cases hreply'
    exact hchange

theorem ordered (e : Occurrence σ) (h : e.before.tables.Ordered) : e.after.tables.Ordered := by
  rcases e.tables_cases with ⟨-, heq⟩ | ⟨_, _, -, -, hchange⟩
  · rw [heq]
    exact h
  · exact hchange.ordered h

/-- Who asks: somebody outside, a task in its step, or a processor in its routine. -/
theorem asked {e : Occurrence σ} {operation : Operation} (h : e.operation? = some operation) :
    e.act.action = .ask operation ∨
    (∃ k n task, e.Steps k n task ∧ task.operation? e.now = some operation) ∨
    operation.routine = true := by
  unfold Occurrence.operation? at h
  split at h
  · next haction =>
    cases h
    exact Or.inl haction
  · cases h
  · next k deed haction =>
    obtain ⟨p, hp, hdeed⟩ := Option.bind_eq_some_iff.mp h
    unfold Processor.operation? at hdeed
    split at hdeed
    · cases hdeed
      exact Or.inr (Or.inr rfl)
    · cases hdeed
      exact Or.inr (Or.inr rfl)
    · split at hdeed <;> cases hdeed
      exact Or.inr (Or.inr rfl)
    · next n draw =>
      obtain ⟨task, htask, hop⟩ := Option.bind_eq_some_iff.mp hdeed
      have hfound : e.before.task? k n = some task := (World.task?_of_processor hp n).trans htask
      exact Or.inr (Or.inl ⟨k, n, task, ⟨⟨draw, haction⟩, hfound⟩, hop⟩)
    all_goals cases hdeed

end Occurrence

theorem ordered_run (turns : List (Turn σ)) : (World.empty.actAll turns).tables.Ordered :=
  @Run.final_of_moments _ _ World.act (fun w : World σ => w.tables.Ordered) (fun _ => True)
    (fun e _ h => Occurrence.ordered e h) World.empty turns Store.Tables.empty_ordered fun _ _ => trivial

/-- The tables are in order at every moment of a run. -/
theorem ordered_before {turns : List (Turn σ)} {e : Occurrence σ}
    (he : e ∈ World.empty.occurrences turns) : e.before.tables.Ordered := by
  obtain ⟨earlier, later, hsplit⟩ := List.append_of_mem he
  obtain ⟨before, after, -, -, hbefore, -⟩ := Run.history_split hsplit
  rw [hbefore]
  exact ordered_run before

end DurableJobs
