import DurableJobs.Proofs.Store.AllOrNothing
import DurableJobs.Proofs.Store.Frame
import DurableJobs.Proofs.System.Announced
import DurableJobs.Proofs.System.Contacts
import DurableJobs.Proofs.System.PutOff

/-!
# What one task does

A task is one among many, and between two of its steps anything may happen. This file picks its own turns
out of a run: a `Stride` is a step of the task with all that decides it, and the `Account` of the task
lists what it has done in its strides. It has asked handlers, which enter what they are asked themselves,
heard from them, asked the store and told the world; and the account ends with the row and the entry of its
job as they stand now.

A task that nothing fails is served: the store answers what it asks (`Stride.served`), and the answer
decides where it goes (`Leads.behind`).
-/

set_option autoImplicit false

namespace DurableJobs

open Store (Operation Reply Row LedgerEntry Tables)

variable {σ : Type}

/-! ## Strides -/

/-- A step of a task: its processor, the task as it stands, and the random number of the step. -/
structure Stride (σ : Type) where
  processor : Processor σ
  task : Task
  draw : Nat

/-- What a task hears from its handler, and what it goes by then. -/
structure Hearing where
  outcome : HandlerOutcome
  config : ProcessorConfig
  now : Instant
  draw : Nat

/-- What the task hears in the step. -/
def Stride.hearing? (s : Stride σ) (now : Instant) : Option Hearing :=
  (s.processor.outcome? s.task.job s.task.phase).map fun outcome =>
    ⟨outcome, s.processor.config, now, s.draw⟩

namespace Occurrence

/-- The step that the task with a number takes in this turn. -/
def stride? (e : Occurrence σ) (k n : Nat) : Option (Stride σ) :=
  match e.act.action with
  | .act j (.step m draw) =>
      if j = k ∧ m = n then
        e.before.processors[k]?.bind fun p => (p.task? n).map fun task => ⟨p, task, draw⟩
      else none
  | _ => none

/-- What handlers are asked when the task takes its step: what they enter when they are logged. -/
def contacts (e : Occurrence σ) (k n : Nat) : List Contact :=
  match e.stride? k n with
  | some s => s.processor.contacts s.task e.act.moment s.draw e.session
  | none => []

def hearing? (e : Occurrence σ) (k n : Nat) : Option Hearing := (e.stride? k n).bind (·.hearing? e.now)

/-- The task asks something of the store in this turn. -/
def question? (e : Occurrence σ) (k n : Nat) : Option (Instant × Operation) :=
  (e.stride? k n).bind fun s => (s.task.operation? e.now).map (e.now, ·)

/-- What its processor tells when the task takes its step. -/
def tells (e : Occurrence σ) (k n : Nat) : List Notification :=
  match e.stride? k n with
  | some _ => (e.after.notifications k).drop (e.before.notifications k).length
  | none => []

/-- The dead letters that are added when the task takes its step. -/
def files (e : Occurrence σ) (k n : Nat) : List DeadLetter :=
  match e.stride? k n with
  | some _ => e.after.tables.deadLetters.drop e.before.tables.deadLetters.length
  | none => []

end Occurrence

/-- What a task has done, and how its job stands. -/
structure Account where
  contacts : List Contact
  heard : List Hearing
  asked : List (Instant × Operation)
  told : List Notification
  filed : List DeadLetter
  row? : Option Row
  booked? : Option LedgerEntry

/-- The account of the task with a number in a stretch of a run, for the job with an id. -/
def account (k n : Nat) (id : Int) (history : List (Occurrence σ)) (w : World σ) : Account where
  contacts := history.flatMap (·.contacts k n)
  heard := history.filterMap (·.hearing? k n)
  asked := history.filterMap (·.question? k n)
  told := history.flatMap (·.tells k n)
  filed := history.flatMap (·.files k n)
  row? := w.tables.job? id
  booked? := w.tables.processed? id

variable {e : Occurrence σ} {k n : Nat} {s : Stride σ}

namespace Occurrence

theorem stride?_eq_some :
    e.stride? k n = some s ↔ e.act.action = .act k (.step n s.draw) ∧
      e.before.processors[k]? = some s.processor ∧ s.processor.task? n = some s.task := by
  obtain ⟨p, task, draw⟩ := s
  unfold stride?
  constructor
  · intro h
    split at h
    · next haction =>
      rw [Option.ite_none_right_eq_some] at h
      obtain ⟨⟨rfl, rfl⟩, h⟩ := h
      obtain ⟨q, hq, h⟩ := Option.bind_eq_some_iff.mp h
      obtain ⟨found, hfound, heq⟩ := Option.map_eq_some_iff.mp h
      cases heq
      exact ⟨haction, hq, hfound⟩
    · cases h
  · rintro ⟨haction, hp, hn⟩
    simp only [haction, hp, hn, and_self, if_true, Option.bind_some, Option.map_some]

theorem steps_of_stride (h : e.stride? k n = some s) : e.Steps k n s.task := by
  obtain ⟨haction, hp, hn⟩ := stride?_eq_some.mp h
  exact ⟨⟨s.draw, haction⟩, (World.task?_of_processor hp n).trans hn⟩

/-- A turn in which the task takes no step is not its own. -/
theorem away_of_stride (h : e.stride? k n = none) (task : Task) : ¬ e.Steps k n task := by
  rintro ⟨⟨draw, haction⟩, htask⟩
  obtain ⟨p, hp, hn⟩ := Option.bind_eq_some_iff.mp htask
  rw [stride?_eq_some (s := ⟨p, task, draw⟩) |>.mpr ⟨haction, hp, hn⟩] at h
  cases h

/-- The task behind its step is what its processor makes of it. -/
theorem after_stride (h : e.stride? k n = some s) :
    e.after.task? k n =
      (s.processor.step s.task e.act.moment s.draw e.session).1.task? n := by
  obtain ⟨haction, hp, hn⟩ := stride?_eq_some.mp h
  rw [Occurrence.after_task? haction hp, if_pos rfl]
  simp only [Processor.act, hn]

/-- A stride is one of the ways, or a rest. -/
theorem stride_cases (h : e.stride? k n = some s) :
    (s.processor.Rests s.task ∧ e.after.task? k n = some s.task) ∨
      ∃ phase, Leads s.processor s.task.job e.now e.reply? s.task.phase phase ∧
        e.after.task? k n = if phase = .ended then none else some { s.task with phase } := by
  obtain ⟨p, hp, hcases⟩ := (steps_of_stride h).cases
  obtain ⟨-, hp', -⟩ := stride?_eq_some.mp h
  cases hp.symm.trans hp'
  exact hcases

end Occurrence

/-! ## The account along a run -/

/-- What a stride adds to an account, with the dead letters, the row and the entry behind it. -/
def Account.add (a : Account) (s : Stride σ) (now : Instant) (filed : List DeadLetter)
    (row? : Option Row) (booked? : Option LedgerEntry) : Account where
  contacts := a.contacts ++ s.processor.entered s.task
  heard := a.heard ++ (s.hearing? now).toList
  asked := a.asked ++ ((s.task.operation? now).map (now, ·)).toList
  told := a.told ++ if s.task.phase = .announcing then [Processor.completion s.task.job] else []
  filed := a.filed ++ filed
  row? := row?
  booked? := booked?

theorem tells_of_stride (h : e.stride? k n = some s) :
    e.tells k n = if s.task.phase = .announcing then [Processor.completion s.task.job] else [] := by
  have hannounced : e.announced? =
      if s.task.phase = .announcing then some (k, s.task.job) else none := by
    rw [Occurrence.announced?, (Occurrence.steps_of_stride h).stepping?]
    by_cases hphase : s.task.phase = .announcing <;> simp [Option.filter, Task.announces, hphase]
  rw [Occurrence.tells, h]
  dsimp only
  rw [e.after_notifications, List.drop_left, hannounced]
  split <;> simp

theorem account_of_stride (h : e.stride? k n = some s) (id : Int) (history : List (Occurrence σ)) :
    account k n id (history ++ [e]) e.after =
      (account k n id history e.before).add s e.now
        (e.after.tables.deadLetters.drop e.before.tables.deadLetters.length)
        (e.after.tables.job? id) (e.after.tables.processed? id) := by
  have hfiles : e.files k n = e.after.tables.deadLetters.drop e.before.tables.deadLetters.length := by
    rw [Occurrence.files, h]
  have hcontacts : e.contacts k n = s.processor.entered s.task := by
    rw [Occurrence.contacts, h]
    exact Processor.contacts_eq _ _ _ _ _
  have hhears : e.hearing? k n = s.hearing? e.now := by rw [Occurrence.hearing?, h, Option.bind_some]
  have hasks : e.question? k n = (s.task.operation? e.now).map (e.now, ·) := by
    rw [Occurrence.question?, h, Option.bind_some]
  simp only [account, Account.add, Run.filterMap_snoc, List.flatMap_append, List.flatMap_singleton,
    hcontacts, hhears, hasks, tells_of_stride h, hfiles]

/-- In a turn of somebody else the account stays as it is, if the job does. -/
theorem account_of_away (h : e.stride? k n = none) {id : Int}
    (hrow : e.after.tables.job? id = e.before.tables.job? id)
    (hentry : e.after.tables.processed? id = e.before.tables.processed? id)
    (history : List (Occurrence σ)) :
    account k n id (history ++ [e]) e.after = account k n id history e.before := by
  simp [account, Occurrence.contacts, Occurrence.hearing?, Occurrence.question?, Occurrence.tells,
    Occurrence.files, h, hrow, hentry]

/-! ## What a stride comes to -/

/-- A database that fails nothing answers any number of statements. -/
theorem Store.answered_of_quiet {faults : List Bool} (h : ∀ fault ∈ faults, fault = false) (count : Nat) :
    Store.Answered faults count := by
  intro i _
  rw [List.getD_eq_getElem?_getD]
  cases hi : faults[i]? with
  | none => rfl
  | some fault => exact h fault (List.mem_of_getElem? hi)

namespace Stride

/-- Everything a task asks is about its job. -/
theorem address? {task : Task} {now : Instant} {operation : Operation}
    (h : task.operation? now = some operation) : operation.address? = some (.job task.job.id) := by
  unfold Task.operation? at h
  split at h <;> cases h <;> rfl

/-- **A task is served**: as long as the row of its job is there, a store with all its tables answers what
it asks, unless the database fails a statement. -/
theorem served (h : e.stride? k n = some s) (hquiet : ∀ fault ∈ e.act.faults, fault = false)
    (hthere : e.before.tables.migrated = 3)
    (hlive : (e.before.tables.job? s.task.job.id).isSome = true) {operation : Operation}
    (hop : s.task.operation? e.now = some operation) : ∃ reply, e.reply? = some (.ok reply) := by
  have hhas : ∀ table, e.session.tables.has table = true := by
    intro table
    rw [Occurrence.session, Tables.has, hthere]
    cases table <;> rfl
  have hanswered : ∀ count, Store.Answered e.session.faults count := Store.answered_of_quiet hquiet
  have hfirst : e.session.faults.headD false = false :=
    ((Store.answered_succ _ 0).mp (hanswered 1)).1
  have hreply : e.reply? = some ((operation.call e.now).execute e.session).1 := by
    rw [Occurrence.reply?, (Occurrence.steps_of_stride h).operation?, hop]
    rfl
  have hamend : ∀ change : Row → Row, ((Store.amend s.task.job.id change).execute e.session).1 = .ok () :=
    fun change => congrArg Prod.fst (Store.amend_eq_ok.mpr ⟨hfirst, hhas .jobs, hlive, rfl⟩)
  -- each of the six operations is opened once; those of one statement only change the row
  suffices hok : ∃ reply, ((operation.call e.now).execute e.session).1 = .ok reply by
    obtain ⟨reply, hok⟩ := hok
    exact ⟨reply, hok ▸ hreply⟩
  unfold Task.operation? at hop
  split at hop <;> cases hop <;> rw [Operation.call, Store.Call.execute_map] <;> dsimp only
  · rw [Store.isProcessed, Store.execute_statement_ok_eq_ok.mpr ⟨hfirst, hhas .ledger, rfl, rfl⟩]
    exact ⟨_, rfl⟩
  · rw [Store.markCompleted, hamend]
    exact ⟨_, rfl⟩
  · rw [(Store.completeProcessed_eq_ok (u := ())).mpr
      ⟨hanswered 4, hhas .ledger, hhas .jobs, hlive, rfl⟩]
    exact ⟨_, rfl⟩
  · rw [Store.archive_eq_ok.mpr ⟨hanswered 4, hhas .deadLetters, hhas .jobs, hlive, rfl, rfl⟩]
    exact ⟨_, rfl⟩
  · rw [Store.markDead, hamend]
    exact ⟨_, rfl⟩
  · rw [Store.markFailed, hamend]
    exact ⟨_, rfl⟩

/-- A stride touches no row but that of its job, and no entry. -/
theorem elsewhere (h : e.stride? k n = some s) :
    Tables.Elsewhere (.job s.task.job.id) e.before.tables e.after.tables := by
  have hop := (Occurrence.steps_of_stride h).operation?
  rcases e.tables_cases with ⟨-, hsame⟩ | ⟨operation, reply, hasked, -, hchange⟩
  · rw [hsame]
    exact .refl _ _
  · exact hchange.elsewhere (address? (hop.symm.trans hasked))

theorem tables_of_silence (h : e.stride? k n = some s) (hop : s.task.operation? e.now = none) :
    e.after.tables = e.before.tables := by
  rw [e.after_tables, (Occurrence.steps_of_stride h).operation?, hop]
  rfl

end Stride

/-- Where a phase leads when the store answers. -/
def Phase.behind (reply : Reply) : Phase → Phase
  | .checking => if reply = .flag true then .confirming else .asking
  | .confirming => .ended
  | .completing => .announcing
  | .archiving _ | .burying _ | .rescheduling _ _ => .releasing
  | phase => phase

theorem Leads.behind {p : Processor σ} {job : Job} {now : Instant} {reply : Reply} {before after : Phase}
    (h : Leads p job now (some (.ok reply)) before after) (hcalls : before.callsStore = true) :
    after = before.behind reply := by
  cases h with
  | found hreply =>
    cases hreply
    rfl
  | missed hreply =>
    rcases hreply with hreply | ⟨_, hreply⟩ <;> cases hreply
    rfl
  | unrecorded _ hreply => cases hreply
  | unarchived _ _ hreply => cases hreply
  | looked _ _ hwaits => rcases hwaits with rfl | rfl <;> cases hcalls
  | succeeded _ hears => cases before <;> first | cases hears | cases hcalls
  | condemned _ _ _ hears => cases before <;> first | cases hears | cases hcalls
  | putOff _ _ _ _ hears => cases before <;> first | cases hears | cases hcalls
  | called | announced | released => cases hcalls
  | confirmed | recorded | archived | buried | rescheduled => rfl

/-- **A task that is served goes on** where the answer leads it, and the tables are those of a change that
was answered. -/
theorem Stride.goes_on (h : e.stride? k n = some s) (hquiet : ∀ fault ∈ e.act.faults, fault = false)
    (hthere : e.before.tables.migrated = 3)
    (hlive : (e.before.tables.job? s.task.job.id).isSome = true) {operation : Operation}
    (hop : s.task.operation? e.now = some operation) :
    ∃ reply, Store.Change e.now e.before.tables operation (.ok reply) e.after.tables ∧
      e.after.task? k n = if s.task.phase.behind reply = .ended then none
        else some { s.task with phase := s.task.phase.behind reply } := by
  obtain ⟨reply, hreply⟩ := served h hquiet hthere hlive hop
  have hcalls : s.task.phase.callsStore = true := by
    rw [Task.operation?] at hop
    generalize s.task.phase = phase at hop
    cases phase <;> first | rfl | cases hop
  refine ⟨reply, e.change ((Occurrence.steps_of_stride h).operation?.trans hop) hreply, ?_⟩
  rcases Occurrence.stride_cases h with ⟨hrests, -⟩ | ⟨phase, hleads, hafter⟩
  · rcases hrests with ⟨hphase, -⟩ | hphase <;> rw [hphase] at hcalls <;> cases hcalls
  · rw [hreply] at hleads
    rw [hafter, hleads.behind hcalls]

end DurableJobs
