import DurableJobs.Proofs.Admission.Accounts
import DurableJobs.Proofs.Store.Ledger
import DurableJobs.Proofs.System.Account
import DurableJobs.Proofs.System.Endings

/-!
# A job that is worked off

A job has been claimed and its task has not begun. What becomes of it if nothing goes wrong: no call to
the store fails, the gate does not turn the task away, the task is not lost, and nobody else touches the
row of the job or its entry in the ledger? All the rest of the system may go on as it likes in between.

The answer is read off the account of the task. `Progress` says what stands there in each phase, and
`Progress.next` that a step of the task keeps it; `Ending` lists the four accounts with which a task can be
gone, and `Handled` what its handler has been asked by then, and what has come of it. A step that does not
move its task is one that waits, and every other one brings it nearer to its end (`Phase.left`).
-/

set_option autoImplicit false

namespace DurableJobs

open Admission
open Store (Operation Row LedgerEntry Tables)

variable {σ : Type}

/-! ## Slots of processors -/

namespace Processor.Attended

variable {p : Processor σ}

/-- Nobody waits and works at once. -/
theorem apart (h : p.Attended) (n : Nat) :
    p.limiter.waiter? n = none ∨ p.limiter.permit? n = none := by
  have hone : p.seat n ≠ (true, true) := by
    unfold seat
    cases p.task? n with
    | none => simp
    | some task => cases hphase : task.phase <;> simp [hphase, Phase.seat]
  rw [← h.seats n, Limiter.seat] at hone
  cases hwaits : p.limiter.waiter? n with
  | none => exact Or.inl rfl
  | some w =>
    cases hworks : p.limiter.permit? n with
    | none => exact Or.inr rfl
    | some permit => simp [hwaits, hworks] at hone

theorem counted_act (h : p.Attended) (hcounted : p.limiter.Counted) (now : Nat) {act : Act Nat Unit}
    (hfresh : Fresh p.limiter act) : ((p.desk now).after act).limiter.Counted :=
  (h.deskStep now act).counted hfresh h.placed h.apart hcounted

theorem step_counted (h : p.Attended) (hcounted : p.limiter.Counted) {n : Nat} {task : Task}
    (hn : p.task? n = some task) (moment : Moment) (draw : Nat) (s : Store.Session) :
    (p.step task moment draw s).1.limiter.Counted := by
  obtain rfl := number_of_task? hn
  cases hgate : task.phase.atGate with
  | false =>
    rw [p.step_limiter moment draw s hgate]
    exact hcounted
  | true =>
    obtain ⟨n, job, phase⟩ := task
    cases phase with
    | asking =>
      rw [Processor.step]
      dsimp only
      rw [moveTo_limiter]
      exact h.counted_act hcounted _ (h.asking hn rfl job.jobType moment.ticks).1
    | queued =>
      rw [Processor.step]
      dsimp only
      rw [moveTo_limiter]
      exact h.counted_act hcounted moment.ticks (.of_none rfl : Fresh _ (.poll n))
    | releasing =>
      rw [Processor.step]
      dsimp only
      rw [moveTo_limiter]
      exact h.counted_act hcounted moment.ticks (.of_none rfl : Fresh _ (.release n))
    | _ => cases hgate

/-- **Whatever a processor does**, the slots of its gates name those who wait and work there. -/
theorem act_counted (h : p.Attended) (hcounted : p.limiter.Counted) (deed : Deed σ) (moment : Moment)
    (s : Store.Session) : (p.act deed moment s).1.limiter.Counted := by
  cases deed with
  | produce job attempts =>
    rw [Processor.act, Producer.enqueue]
    rcases (Store.enqueue job attempts moment.wall).execute s with ⟨_ | _, _⟩ <;> exact hcounted
  | rescue | disturb => exact hcounted
  | claim =>
    rw [Processor.act, Processor.claim]
    split
    · exact hcounted
    · rcases (Store.claimNext moment.wall).execute s with ⟨_ | _ | job, _⟩ <;> exact hcounted
  | step n draw =>
    simp only [Processor.act]
    cases hn : p.task? n with
    | none => exact hcounted
    | some task => exact h.step_counted hcounted hn moment draw s
  | lose n =>
    rw [Processor.act, Processor.lose, moveTo_limiter]
    have habandon := h.deskStep 0 (.abandon n)
    have hplaced := habandon.placed (.of_none rfl) h.placed
    refine (Desk.step hplaced (.release n)).counted (.of_none rfl) hplaced (fun _ => ?_)
      (h.counted_act hcounted 0 (.of_none rfl))
    exact habandon.apart (.of_none rfl) h.apart
  | cancel => exact h.counted_act hcounted 0 (.of_none rfl : Fresh _ (.cancel ()))
  | register jobType profile => exact hcounted.register h.placed jobType profile

/-- A task that is gone has left nothing behind at the gates. -/
theorem given_back (h : p.Attended) (hcounted : p.limiter.Counted) {n : Nat} (hgone : p.task? n = none) :
    p.limiter.waiter? n = none ∧ p.limiter.permit? n = none ∧
      ∀ gate ∈ p.limiter.gates, n ∉ gate.slots.waiting ∧ n ∉ gate.slots.held := by
  have hseat : p.seat n = (false, false) := by
    rw [Processor.seat, hgone]
    rfl
  obtain ⟨hwaits, hworks⟩ := h.absent hseat
  refine ⟨hwaits, hworks, fun gate hgate => ?_⟩
  obtain ⟨g, there⟩ := List.getElem?_of_mem hgate
  have htidy := hcounted.slots g gate there
  constructor
  · rw [htidy.waits]
    rintro ⟨w, hw, -⟩
    rw [hwaits] at hw
    cases hw
  · rw [htidy.works]
    rintro ⟨permit, hpermit, -⟩
    rw [hworks] at hpermit
    cases hpermit

end Processor.Attended

/-- Every processor and its limiter agree, down to the slots of the gates. -/
def World.Audited (w : World σ) : Prop :=
  ∀ (k : Nat) p, w.processors[k]? = some p → p.Attended ∧ p.limiter.Counted

theorem Occurrence.audited {e : Occurrence σ} (hturn : e.act.BuildsGates) (h : e.before.Audited) :
    e.after.Audited := by
  intro k q hq
  rcases processor_before hq
    with hold | ⟨-, config, registry, limiter, collaborators, haction, rfl⟩ | ⟨p, deed, hp, -, rfl⟩
  · exact h k q hold
  · obtain ⟨profiles, fallback, rfl⟩ := hturn _ _ _ _ haction
    exact ⟨Processor.create_attended config registry profiles fallback collaborators,
      .ofProfiles profiles fallback⟩
  · obtain ⟨hattended, hcounted⟩ := h k p hp
    exact ⟨hattended.act deed _ _, hattended.act_counted hcounted deed _ _⟩

theorem World.audited_run {w : World σ} (h : w.Audited) (turns : List (Turn σ))
    (hturns : ∀ turn ∈ turns, turn.BuildsGates) : (w.actAll turns).Audited :=
  @Run.invariant _ _ World.act (fun turn => turn.BuildsGates) (fun _ w => World.Audited w) w h
    (fun _ w turn hturn h => Occurrence.audited (e := ⟨w, turn⟩) hturn h) turns hturns

/-! ## Turns in which nothing goes wrong -/

/-- The turn does a task no harm. In a step of its own no statement fails and the gate does not turn it
away; in any other turn it is not lost, and its job stays as it is. -/
def Occurrence.spares (e : Occurrence σ) (k n : Nat) (id : Int) : Bool :=
  match e.stride? k n with
  | some s =>
      e.act.faults.all (!·) &&
        (!(s.task.phase == .asking || s.task.phase == .queued) || (e.after.task? k n).isSome)
  | none =>
      !e.loses k n && e.after.tables.job? id == e.before.tables.job? id &&
        e.after.tables.processed? id == e.before.tables.processed? id

namespace Occurrence

variable {e : Occurrence σ} {k n : Nat} {id : Int}

theorem spares_stride {s : Stride σ} (h : e.spares k n id = true) (hs : e.stride? k n = some s) :
    (∀ fault ∈ e.act.faults, fault = false) ∧
      (s.task.phase = .asking ∨ s.task.phase = .queued → (e.after.task? k n).isSome = true) := by
  rw [spares, hs] at h
  simp only [Bool.and_eq_true, Bool.or_eq_true, List.all_eq_true, Bool.not_eq_true',
    Bool.or_eq_false_iff, beq_eq_false_iff_ne] at h
  refine ⟨h.1, fun hwaits => h.2.resolve_left ?_⟩
  rintro ⟨hasking, hqueued⟩
  exact hwaits.elim hasking hqueued

theorem spares_away (h : e.spares k n id = true) (hs : e.stride? k n = none) :
    e.loses k n = false ∧ e.after.tables.job? id = e.before.tables.job? id ∧
      e.after.tables.processed? id = e.before.tables.processed? id := by
  rw [spares, hs] at h
  simpa [and_assoc] using h

/-- A task that takes no step and is not lost stays as it is, and nobody else gets its number. -/
theorem task_of_away (haway : e.stride? k n = none) (hkept : e.loses k n = false)
    (hgiven : ∃ p, e.before.processors[k]? = some p ∧ n < p.nextTask) :
    e.after.task? k n = e.before.task? k n := by
  have hfate := e.taskFate k n
  generalize hbefore : e.before.task? k n = before at hfate
  generalize hafter : e.after.task? k n = after at hfate
  cases hfate with
  | kept => rfl
  | spawned p job haction hp hnew =>
    obtain ⟨q, hq, hn⟩ := hgiven
    cases hp.symm.trans hq
    omega
  | rested task hsteps => exact absurd hsteps (away_of_stride haway task)
  | moved p task phase hsteps => exact absurd hsteps (away_of_stride haway task)
  | ended p task hsteps => exact absurd hsteps (away_of_stride haway task)
  | lost task haction =>
    rw [loses, haction] at hkept
    simp at hkept

end Occurrence

/-! ## Stages -/

/-- How many steps a task can still take, but for those in which it waits. -/
def Phase.left : Phase → Nat
  | .checking => 8
  | .asking => 7
  | .queued => 6
  | .admitted => 5
  | .running => 4
  | .completing | .archiving _ => 3
  | .announcing | .burying _ | .rescheduling _ _ => 2
  | .confirming | .releasing => 1
  | .ended => 0

/-- The phase of the task with a number, as long as it is there. -/
def World.phase? (w : World σ) (k n : Nat) : Option Phase := (w.task? k n).map (·.phase)

section Stages

variable (registry : Registry σ) (job : Job) (row : Row) (booked? : Option LedgerEntry)

/-- All that handlers are asked for a job, and what comes of it. The handler of its type is called once, with
what the job says of itself, and answers at once or later; a type without a handler is a failure, and nobody
is asked. -/
inductive Handled : List Contact → HandlerOutcome → Prop where
  | answered (registered : registry.contains job.jobType = true) (outcome : HandlerOutcome) :
      Handled
        [.called job.jobType ⟨job.id, job.jobType, job.tenantId, job.attemptCount⟩ job.payload
          (.answered outcome)]
        outcome
  | answeredLater (registered : registry.contains job.jobType = true) (outcome : HandlerOutcome) :
      Handled
        [.called job.jobType ⟨job.id, job.jobType, job.tenantId, job.attemptCount⟩ job.payload .waiting,
          .resumed job.jobType ⟨job.id, job.jobType, job.tenantId, job.attemptCount⟩ outcome]
        outcome
  | unregistered (missing : registry.contains job.jobType = false) :
      Handled [] (.failed (.unknownType job.jobType))

/-- The accounts with which a task leaves its job, when the row and the entry were these at the start. -/
inductive Ending : Account → Prop where
  /-- The work had been done before. -/
  | confirmed (looked now : Instant) (recorded : booked?.isSome = true) :
      Ending
        { contacts := []
          heard := []
          asked := [(looked, .isProcessed job.id), (now, .markCompleted job.id)]
          told := []
          filed := []
          row? := some { row with
            status := Status.completed.name, completedAt := some now, updatedAt := now }
          booked? }
  | completed (looked now : Instant) (contacts : List Contact) (hearing : Hearing)
      (missing : booked? = none) (handled : Handled registry job contacts hearing.outcome)
      (succeeds : hearing.outcome = .done) :
      Ending
        { contacts
          heard := [hearing]
          asked := [(looked, .isProcessed job.id), (now, .completeProcessed job.id)]
          told := [⟨job.tenantUser?, Notification.jobCompleted, job.jobType⟩]
          filed := []
          row? := some { row with
            status := Status.completed.name, completedAt := some now, updatedAt := now }
          booked? := some ⟨job.id, now⟩ }
  /-- The attempts are used up, or the job is too old. -/
  | archived (looked now : Instant) (contacts : List Contact) (hearing : Hearing) (failure : Failure)
      (letterId : Int) (missing : booked? = none)
      (handled : Handled registry job contacts hearing.outcome)
      (fails : hearing.outcome.failure? = some failure)
      (final : job.maxAttempts ≤ job.attemptCount ∨
        hearing.config.deadLetters.staleAfter < hearing.now.since job.createdAt) :
      Ending
        { contacts
          heard := [hearing]
          asked := [(looked, .isProcessed job.id), (now, .archive job failure.message)]
          told := []
          filed := [{
            id := letterId
            originalJobId := job.id
            tenantId := job.tenantId
            jobType := job.jobType
            payload := job.payload
            attemptCount := job.attemptCount
            lastError := some failure.message
            failedAt := now
            archivedAt := now }]
          row? := none
          booked? := none }
  | putOff (looked now : Instant) (contacts : List Contact) (hearing : Hearing) (failure : Failure)
      (missing : booked? = none) (handled : Handled registry job contacts hearing.outcome)
      (fails : hearing.outcome.failure? = some failure)
      (again : ¬ (job.maxAttempts ≤ job.attemptCount ∨
        hearing.config.deadLetters.staleAfter < hearing.now.since job.createdAt)) :
      Ending
        { contacts
          heard := [hearing]
          asked := [(looked, .isProcessed job.id), (now, .markFailed job.id failure.message
            (Processor.retryAt
              (Processor.retryDelay hearing.config job failure.message hearing.draw) now))]
          told := []
          filed := []
          row? := some { row with
            status := Status.pending.name
            lastError := some failure.message
            runAt := Processor.retryAt
              (Processor.retryDelay hearing.config job failure.message hearing.draw) now
            updatedAt := now }
          booked? := none }

/-- The account of a task that has looked into the ledger. -/
def Account.looked (now : Instant) : Account :=
  ⟨[], [], [(now, .isProcessed job.id)], [], [], some row, booked?⟩

/-- The account of a task that has asked its handler, for a job that was not in the ledger. -/
def Account.called (contacts : List Contact) (now : Instant) (heard : List Hearing) : Account :=
  ⟨contacts, heard, [(now, .isProcessed job.id)], [], [], some row, none⟩

/-- The account of a task that has recorded its job and not told of it. -/
def Account.recorded (contacts : List Contact) (looked now : Instant) (hearing : Hearing) : Account :=
  ⟨contacts, [hearing], [(looked, .isProcessed job.id), (now, .completeProcessed job.id)], [], [],
    some (row.completed now), some ⟨job.id, now⟩⟩

/-- The call of a handler that lets the task wait. -/
def Contact.waited : Contact := .called job.jobType (JobContext.ofJob job) job.payload .waiting

/-- What stands in the account of a task in each phase, and when it is gone. -/
inductive Progress : Option Phase → Account → Prop where
  | checking : Progress (some .checking) ⟨[], [], [], [], [], some row, booked?⟩
  | confirming (looked : Instant) (recorded : booked?.isSome = true) :
      Progress (some .confirming) (.looked job row booked? looked)
  | waiting (phase : Phase) (waits : phase.waits = true) (looked : Instant) (missing : booked? = none) :
      Progress (some phase) (.looked job row booked? looked)
  | running (looked : Instant) (missing : booked? = none)
      (registered : registry.contains job.jobType = true) :
      Progress (some .running) (.called job row [.waited job] looked [])
  | completing (looked : Instant) (contacts : List Contact) (hearing : Hearing) (missing : booked? = none)
      (handled : Handled registry job contacts hearing.outcome) (succeeds : hearing.outcome = .done) :
      Progress (some .completing) (.called job row contacts looked [hearing])
  | archiving (looked : Instant) (contacts : List Contact) (hearing : Hearing) (failure : Failure)
      (missing : booked? = none) (handled : Handled registry job contacts hearing.outcome)
      (fails : hearing.outcome.failure? = some failure)
      (final : hearing.config.deadLetters.shouldMove job hearing.now = true) :
      Progress (some (.archiving failure.message)) (.called job row contacts looked [hearing])
  | rescheduling (looked : Instant) (contacts : List Contact) (hearing : Hearing) (failure : Failure)
      (missing : booked? = none) (handled : Handled registry job contacts hearing.outcome)
      (fails : hearing.outcome.failure? = some failure)
      (again : hearing.config.deadLetters.shouldMove job hearing.now = false) :
      Progress (some (.rescheduling failure.message
          (Processor.retryDelay hearing.config job failure.message hearing.draw)))
        (.called job row contacts looked [hearing])
  | announcing (looked now : Instant) (contacts : List Contact) (hearing : Hearing)
      (missing : booked? = none) (handled : Handled registry job contacts hearing.outcome)
      (succeeds : hearing.outcome = .done) :
      Progress (some .announcing) (.recorded job row contacts looked now hearing)
  | releasing (account : Account) (ending : Ending registry job row booked? account) :
      Progress (some .releasing) account
  | gone (account : Account) (ending : Ending registry job row booked? account) : Progress none account

end Stages

/-! ## One step -/

theorem Store.Tables.isRecorded_eq_isSome (tables : Tables) (id : Int) :
    tables.isRecorded id = (tables.processed? id).isSome := by
  rw [Bool.eq_iff_iff, Tables.isRecorded, Tables.processed?, List.find?_isSome, List.any_eq_true]

theorem DeadLetterPolicy.shouldMove_iff (policy : DeadLetterPolicy) (job : Job) (now : Instant) :
    policy.shouldMove job now = true ↔
      job.maxAttempts ≤ job.attemptCount ∨ policy.staleAfter < now.since job.createdAt := by
  simp [shouldMove, JobOf.attemptsExhausted, attemptsExhausted]

/-- The row of an id behind a write to it. -/
theorem Store.Tables.job?_of_write {tables : Tables} {change : Row → Row} {id : Int} {row : Row}
    (hid : ∀ row, (change row).id = row.id) (hrow : tables.job? id = some row) :
    (tables.updateJobs (·.id == id) change).2.job? id = some (change row) := by
  rw [tables.updateJobs_job? _ change id hid, hrow, Option.map_some, (Tables.mem_of_job? hrow).2]
  simp

theorem Store.Tables.processed?_of_record {tables : Tables} {id : Int} {now : Instant}
    (hnone : tables.processed? id = none) : (tables.record ⟨id, now⟩).processed? id = some ⟨id, now⟩ := by
  have hentries : ∀ tables : Tables, tables.processed? id = (tables.entries id).head? := fun _ =>
    List.head?_filter.symm
  have hempty : tables.entries id = [] := by
    rw [hentries, List.head?_eq_none_iff] at hnone
    exact hnone
  rw [hentries, Tables.entries_record, if_pos ⟨rfl, hempty⟩]
  rfl

/-- The ways of a task that hears nothing. -/
theorem Leads.of_silence {p : Processor σ} {job : Job} {now : Instant}
    {reply? : Option (Except StoreError Store.Reply)} {before after : Phase}
    (h : Leads p job now reply? before after) (hsilent : p.outcome? job before = none) :
    (before = .asking ∨ before = .queued → after = .admitted ∨ after = .queued ∨ after = .ended) ∧
      (before = .admitted → after = .running) ∧ before ≠ .running ∧
      (before = .announcing → after = .releasing) ∧ (before = .releasing → after = .ended) := by
  cases h with
  | looked _ _ hwaits hgoes => rcases hwaits with rfl | rfl <;> simp [hgoes]
  | succeeded _ hears => cases hsilent.symm.trans hears
  | condemned _ _ _ hears => cases hsilent.symm.trans hears
  | putOff _ _ _ _ hears => cases hsilent.symm.trans hears
  | _ => simp

section Handled

variable {p : Processor σ} {job : Job} {outcome : HandlerOutcome}

/-- An answer to the call is the answer of the handler, or there is none. -/
theorem Handled.of_called (h : p.outcome? job .admitted = some outcome) :
    Handled p.registry job
      (p.registry.calls (JobContext.ofJob job) job.payload p.collaborators) outcome := by
  unfold Processor.outcome? Registry.dispatch at h
  unfold Registry.calls
  cases hget : p.registry.get? (JobContext.ofJob job).jobType with
  | none =>
    rw [hget] at h
    cases h
    exact .unregistered (Option.isSome_eq_false_iff.mpr (Option.isNone_iff_eq_none.mpr hget))
  | some handler =>
    rw [hget] at h
    dsimp only at h ⊢
    split at h
    · next hanswers =>
      cases h
      rw [hanswers]
      exact .answered (Option.isSome_of_eq_some hget) outcome
    · cases h

/-- Who waits for its handler has called it. -/
theorem Processor.calls_of_silence (h : p.outcome? job .admitted = none) :
    p.registry.contains job.jobType = true ∧
      p.registry.calls (JobContext.ofJob job) job.payload p.collaborators = [.waited job] := by
  unfold Processor.outcome? Registry.dispatch at h
  unfold Registry.calls
  cases hget : p.registry.get? (JobContext.ofJob job).jobType with
  | none =>
    rw [hget] at h
    cases h
  | some handler =>
    rw [hget] at h
    dsimp only at h ⊢
    split at h
    · cases h
    · next hwaits =>
      rw [hwaits]
      exact ⟨Option.isSome_of_eq_some hget, rfl⟩

/-- A late answer is the answer to the call that has waited. -/
theorem Handled.of_resumed (registered : p.registry.contains job.jobType = true)
    (h : p.outcome? job .running = some outcome) :
    Handled p.registry job
      ([.waited job] ++ p.registry.resumes (JobContext.ofJob job) p.collaborators) outcome := by
  unfold Processor.outcome? at h
  unfold Registry.resumes
  obtain ⟨⟨_, world⟩, hresume, rfl⟩ := Option.map_eq_some_iff.mp h
  rw [hresume]
  exact .answeredLater registered _

/-- Whose handler has not answered asks it nothing. -/
theorem Processor.resumes_of_silence (h : p.outcome? job .running = none) :
    p.registry.resumes (JobContext.ofJob job) p.collaborators = [] := by
  unfold Registry.resumes
  rw [Option.map_eq_none_iff.mp h]

end Handled

/-- The step finds its task waiting, at the gate or for its handler. -/
def Stride.Waits (s : Stride σ) (ticks : Nat) : Prop :=
  s.task.phase = .queued ∧ (s.processor.limiter.poll s.task.number ticks).1 = some .waiting ∨
  s.task.phase = .running ∧
    s.processor.registry.resume (JobContext.ofJob s.task.job) s.processor.collaborators = none

section Step

variable {e : Occurrence σ} {k n : Nat} {s : Stride σ} {registry : Registry σ} {job : Job} {row : Row}
  {booked? : Option LedgerEntry} {history : List (Occurrence σ)} {looked : Instant} {contacts : List Contact}

/-- What a step of a task comes to: its progress is kept, and it is nearer to its end, unless it waits. -/
structure Advances (e : Occurrence σ) (k n : Nat) (registry : Registry σ) (job : Job) (row : Row)
    (booked? : Option LedgerEntry) (history : List (Occurrence σ)) (s : Stride σ) : Prop where
  progress : Progress registry job row booked? (e.after.phase? k n)
    (account k n job.id (history ++ [e]) e.after)
  nearer : ((e.after.phase? k n).map (·.left)).getD 0 < s.task.phase.left ∨
    e.after.phase? k n = some s.task.phase ∧ s.Waits e.act.moment.ticks

theorem Advances.of_phase {next? : Option Phase} (hphase? : e.after.phase? k n = next?)
    (hprogress : Progress registry job row booked? next? (account k n job.id (history ++ [e]) e.after))
    (hnearer : (next?.map (·.left)).getD 0 < s.task.phase.left) :
    Advances e k n registry job row booked? history s := by
  subst hphase?
  exact ⟨hprogress, Or.inl hnearer⟩

/-- What a task can rely on in a step of its own. -/
structure Safe (e : Occurrence σ) (k n : Nat) (registry : Registry σ) (job : Job) (s : Stride σ) :
    Prop where
  stride : e.stride? k n = some s
  handlers : s.processor.registry = registry
  own : s.task.job = job
  spared : e.spares k n job.id = true
  there : e.before.tables.migrated = 3

namespace Safe

theorem answers (h : Safe e k n registry job s) (hlive : e.before.tables.job? job.id = some row)
    {operation : Operation} (hop : s.task.operation? e.now = some operation) :
    ∃ reply, Store.Change e.now e.before.tables operation (.ok reply) e.after.tables ∧
      e.after.phase? k n = if s.task.phase.behind reply = .ended then none
        else some (s.task.phase.behind reply) := by
  obtain ⟨hstride, -, rfl, hspared, hthere⟩ := h
  obtain ⟨reply, hchange, hafter⟩ := Stride.goes_on hstride
    (Occurrence.spares_stride hspared hstride).1 hthere (by rw [hlive]; rfl) hop
  refine ⟨reply, hchange, ?_⟩
  rw [World.phase?, hafter]
  split <;> rfl

/-- A task that is not at rest goes one of its ways. -/
theorem leads (h : Safe e k n registry job s) (hmoves : ¬ s.processor.Rests s.task) :
    ∃ next, Leads s.processor s.task.job e.now e.reply? s.task.phase next ∧
      e.after.phase? k n = if next = .ended then none else some next := by
  rcases Occurrence.stride_cases h.stride with ⟨hrests, -⟩ | ⟨next, hleads, hafter⟩
  · exact absurd hrests hmoves
  · refine ⟨next, hleads, ?_⟩
    rw [World.phase?, hafter]
    split <;> rfl

/-- The look into the ledger. -/
theorem checking (h : Safe e k n registry job s) (hphase : s.task.phase = .checking)
    (hacc : account k n job.id history e.before = ⟨[], [], [], [], [], some row, booked?⟩) :
    Advances e k n registry job row booked? history s := by
  have hrow : e.before.tables.job? job.id = some row := congrArg Account.row? hacc
  have hentry : e.before.tables.processed? job.id = booked? := congrArg Account.booked? hacc
  have hop : s.task.operation? e.now = some (.isProcessed job.id) := by
    rw [Task.operation?, hphase, ← h.own]
  obtain ⟨reply, hchange, hafter⟩ := h.answers hrow hop
  obtain ⟨hsame, rfl⟩ : e.after.tables = e.before.tables ∧ reply = .flag booked?.isSome := by
    generalize e.after.tables = after at hchange
    cases hchange with
    | looked _ _ _ ledger =>
      refine ⟨rfl, ?_⟩
      rw [ledger _ rfl, Tables.isRecorded_eq_isSome, hentry]
  have hadd : account k n job.id (history ++ [e]) e.after = .looked job row booked? e.now := by
    rw [account_of_stride h.stride, hacc, hsame, hrow, hentry]
    simp [Account.add, Account.looked, Processor.entered, Stride.hearing?, Processor.outcome?, hop, hphase]
  rw [hphase] at hafter
  cases booked? with
  | none =>
    have hphase? : e.after.phase? k n = some .asking := hafter
    refine .of_phase hphase? ?_ (by rw [hphase]; decide)
    rw [hadd]
    exact .waiting .asking rfl e.now rfl
  | some entry =>
    have hphase? : e.after.phase? k n = some .confirming := hafter
    refine .of_phase hphase? ?_ (by rw [hphase]; decide)
    rw [hadd]
    exact .confirming e.now rfl

/-- The completion of a row whose work has been done before. -/
theorem confirming (h : Safe e k n registry job s) (hphase : s.task.phase = .confirming)
    (hrecorded : booked?.isSome = true)
    (hacc : account k n job.id history e.before = .looked job row booked? looked) :
    Advances e k n registry job row booked? history s := by
  have hrow : e.before.tables.job? job.id = some row := congrArg Account.row? hacc
  have hentry : e.before.tables.processed? job.id = booked? := congrArg Account.booked? hacc
  have hop : s.task.operation? e.now = some (.markCompleted job.id) := by
    rw [Task.operation?, hphase, ← h.own]
  obtain ⟨reply, hchange, hafter⟩ := h.answers hrow hop
  rw [hphase] at hafter
  have hphase? : e.after.phase? k n = none := hafter
  refine .of_phase hphase? ?_ (by rw [hphase]; decide)
  obtain ⟨hletters, hrow', hentry'⟩ : e.after.tables.deadLetters = e.before.tables.deadLetters ∧
      e.after.tables.job? job.id = some (row.completed e.now) ∧
      e.after.tables.processed? job.id = booked? := by
    generalize e.after.tables = after at hchange
    cases hchange with
    | looked _ _ hlooks => cases hlooks
    | completed => exact ⟨rfl, Tables.job?_of_write (fun _ => rfl) hrow, hentry⟩
  have hadd : account k n job.id (history ++ [e]) e.after =
      ⟨[], [], [(looked, .isProcessed job.id), (e.now, .markCompleted job.id)], [], [],
        some (row.completed e.now), booked?⟩ := by
    rw [account_of_stride h.stride, hacc, hletters, hrow', hentry']
    simp [Account.add, Account.looked, Processor.entered, Stride.hearing?, Processor.outcome?, hop, hphase]
  rw [hadd]
  exact .gone _ (.confirmed looked e.now hrecorded)

/-- A task that is queued behind its look has been told to wait. -/
theorem polled (h : Safe e k n registry job s) (hphase : s.task.phase = .queued)
    (hphase? : e.after.phase? k n = some .queued) :
    (s.processor.limiter.poll s.task.number e.act.moment.ticks).1 = some .waiting := by
  rw [World.phase?, Occurrence.after_stride h.stride, Processor.step, hphase] at hphase?
  obtain ⟨-, -, hn⟩ := Occurrence.stride?_eq_some.mp h.stride
  obtain rfl := Processor.number_of_task? hn
  dsimp only at hphase?
  rw [Processor.moveTo_task?, if_pos rfl] at hphase?
  split at hphase?
  · cases hphase?
  · have hgoes : (((s.processor.limiter.poll s.task.number e.act.moment.ticks).1.map
        Processor.afterLook).getD .ended) = .queued := by
      change Option.map _ (Option.map _ (s.processor.task? s.task.number)) = _ at hphase?
      rw [hn] at hphase?
      exact Option.some.inj hphase?
    generalize (s.processor.limiter.poll s.task.number e.act.moment.ticks).1 = answer at hgoes
    cases answer with
    | none => cases hgoes
    | some answer => cases answer <;> first | rfl | cases hgoes

/-- A look at the gate. -/
theorem waiting (h : Safe e k n registry job s) (hphase : s.task.phase = .asking ∨ s.task.phase = .queued)
    (hmissing : booked? = none)
    (hacc : account k n job.id history e.before = .looked job row booked? looked) :
    Advances e k n registry job row booked? history s := by
  have hrow : e.before.tables.job? job.id = some row := congrArg Account.row? hacc
  have hentry : e.before.tables.processed? job.id = booked? := congrArg Account.booked? hacc
  have hop : s.task.operation? e.now = none := by
    rcases hphase with hphase | hphase <;> rw [Task.operation?, hphase]
  have hadd : account k n job.id (history ++ [e]) e.after = .looked job row booked? looked := by
    rw [account_of_stride h.stride, hacc, Stride.tables_of_silence h.stride hop, hrow, hentry]
    rcases hphase with hphase | hphase <;>
      simp [Account.add, Account.looked, Processor.entered, Stride.hearing?, Processor.outcome?, hop, hphase]
  have hstays := (Occurrence.spares_stride h.spared h.stride).2 hphase
  have hsilent : s.processor.outcome? s.task.job s.task.phase = none := by
    rcases hphase with hphase | hphase <;> rw [hphase] <;> rfl
  have hmoves : ¬ s.processor.Rests s.task := by
    rcases hphase with hphase | hphase <;> simp [Processor.Rests, hphase]
  obtain ⟨next, hleads, hafter⟩ := h.leads hmoves
  obtain ⟨hnext, hphase?⟩ : (next = .admitted ∨ next = .queued) ∧ e.after.phase? k n = some next := by
    rcases (hleads.of_silence hsilent).1 hphase with rfl | rfl | rfl
    · exact ⟨Or.inl rfl, hafter⟩
    · exact ⟨Or.inr rfl, hafter⟩
    · have hgone : e.after.task? k n = none := Option.map_eq_none_iff.mp hafter
      rw [hgone] at hstays
      cases hstays
  constructor
  · rw [hadd, hphase?]
    exact .waiting next (by rcases hnext with rfl | rfl <;> rfl) looked hmissing
  · rw [hphase?]
    rcases hphase with hphase | hphase
    · left
      rcases hnext with rfl | rfl <;> rw [hphase] <;> decide
    · rcases hnext with rfl | rfl
      · left
        rw [hphase]
        decide
      · exact Or.inr ⟨by rw [hphase], Or.inl ⟨hphase, h.polled hphase hphase?⟩⟩

/-- What is made of an outcome. -/
theorem heard (h : Safe e k n registry job s) {outcome : HandlerOutcome}
    (hears : s.processor.outcome? s.task.job s.task.phase = some outcome) (hmissing : booked? = none)
    (hhandled : Handled registry job contacts outcome)
    (hadd : account k n job.id (history ++ [e]) e.after =
      .called job row contacts looked (s.hearing? e.now).toList) :
    Advances e k n registry job row booked? history s := by
  have hheard : (s.hearing? e.now).toList = [⟨outcome, s.processor.config, e.now, s.draw⟩] := by
    rw [Stride.hearing?, hears]
    rfl
  obtain ⟨-, -, hn⟩ := Occurrence.stride?_eq_some.mp h.stride
  obtain rfl := Processor.number_of_task? hn
  have hphase? : e.after.phase? k s.task.number = some (Processor.settle s.processor.config s.task.job
      outcome e.now s.draw s.processor.metrics).1 := by
    rw [World.phase?, Occurrence.after_stride h.stride, Processor.step_settled hn hears]
    rfl
  have hleft : 3 < s.task.phase.left := by
    generalize s.task.phase = phase at hears
    cases phase <;> first | cases hears | decide
  rw [h.own, Processor.settle] at hphase?
  constructor
  · rw [hadd, hheard, hphase?]
    cases hfails : outcome.failure? with
    | none =>
      have hdone : outcome = .done := by cases outcome <;> first | rfl | cases hfails
      exact .completing looked contacts _ hmissing hhandled hdone
    | some failure =>
      cases hmove : s.processor.config.deadLetters.shouldMove job e.now with
      | true => exact .archiving looked contacts ⟨outcome, _, _, _⟩ failure hmissing hhandled hfails hmove
      | false =>
        exact .rescheduling looked contacts ⟨outcome, _, _, _⟩ failure hmissing hhandled hfails hmove
  · refine Or.inl (Nat.lt_of_le_of_lt ?_ hleft)
    rw [hphase?]
    cases outcome.failure? with
    | none => simp [Phase.left]
    | some failure => cases s.processor.config.deadLetters.shouldMove job e.now <;> simp [Phase.left]

/-- The call of the handler, and what it answers at once. -/
theorem admitted (h : Safe e k n registry job s) (hphase : s.task.phase = .admitted)
    (hmissing : booked? = none)
    (hacc : account k n job.id history e.before = .looked job row booked? looked) :
    Advances e k n registry job row booked? history s := by
  have hrow : e.before.tables.job? job.id = some row := congrArg Account.row? hacc
  have hentry : e.before.tables.processed? job.id = none := (congrArg Account.booked? hacc).trans hmissing
  have hop : s.task.operation? e.now = none := by rw [Task.operation?, hphase]
  have hadd : account k n job.id (history ++ [e]) e.after =
      .called job row (registry.calls (JobContext.ofJob job) job.payload s.processor.collaborators) looked
        (s.hearing? e.now).toList := by
    rw [account_of_stride h.stride, hacc, Stride.tables_of_silence h.stride hop, hrow, hentry]
    simp [Account.add, Account.looked, Account.called, Processor.entered, hop, hphase, h.own, h.handlers]
  cases hears : s.processor.outcome? s.task.job s.task.phase with
  | some outcome =>
    have hcalled := hears
    rw [hphase, h.own] at hcalled
    exact h.heard hears hmissing (h.handlers ▸ Handled.of_called hcalled) hadd
  | none =>
    obtain ⟨next, hleads, hphase?⟩ := h.leads (by simp [Processor.Rests, hphase])
    obtain rfl := (hleads.of_silence hears).2.1 hphase
    refine .of_phase hphase? ?_ (by rw [hphase]; decide)
    rw [Stride.hearing?, hears] at hadd
    rw [hphase, h.own] at hears
    obtain ⟨hregistered, hcalled⟩ := Processor.calls_of_silence hears
    rw [h.handlers] at hregistered hcalled
    rw [hadd, hcalled]
    exact .running looked hmissing hregistered

/-- A look for the answer of the handler. -/
theorem running (h : Safe e k n registry job s) (hphase : s.task.phase = .running)
    (hmissing : booked? = none) (hregistered : registry.contains job.jobType = true)
    (hacc : account k n job.id history e.before = .called job row [.waited job] looked []) :
    Advances e k n registry job row booked? history s := by
  have hrow : e.before.tables.job? job.id = some row := congrArg Account.row? hacc
  have hentry : e.before.tables.processed? job.id = none := congrArg Account.booked? hacc
  have hop : s.task.operation? e.now = none := by rw [Task.operation?, hphase]
  have hadd : account k n job.id (history ++ [e]) e.after =
      .called job row ([.waited job] ++ registry.resumes (JobContext.ofJob job) s.processor.collaborators)
        looked (s.hearing? e.now).toList := by
    rw [account_of_stride h.stride, hacc, Stride.tables_of_silence h.stride hop, hrow, hentry]
    simp [Account.add, Account.called, Processor.entered, hop, hphase, h.own, h.handlers]
  cases hears : s.processor.outcome? s.task.job s.task.phase with
  | some outcome =>
    have hanswered := hears
    rw [hphase, h.own] at hanswered
    exact h.heard hears hmissing
      (h.handlers ▸ Handled.of_resumed (h.handlers ▸ hregistered) hanswered) hadd
  | none =>
    have hphase? : e.after.phase? k n = some .running := by
      rcases Occurrence.stride_cases h.stride with ⟨-, hafter⟩ | ⟨next, hleads, hafter⟩
      · rw [World.phase?, hafter, Option.map_some, hphase]
      · exact absurd hphase (hleads.of_silence hears).2.2.1
    rw [Stride.hearing?, hears] at hadd
    rw [hphase] at hears
    have hsilent : s.processor.registry.resume (JobContext.ofJob s.task.job) s.processor.collaborators =
        none := Option.map_eq_none_iff.mp hears
    refine ⟨?_, Or.inr ⟨by rw [hphase?, hphase], Or.inr ⟨hphase, hsilent⟩⟩⟩
    rw [h.own] at hears
    rw [hadd, hphase?, ← h.handlers, Processor.resumes_of_silence hears, h.handlers]
    exact .running looked hmissing hregistered

/-- The write of the completion and of the entry. -/
theorem completing (h : Safe e k n registry job s) {hearing : Hearing} (hphase : s.task.phase = .completing)
    (hmissing : booked? = none) (hhandled : Handled registry job contacts hearing.outcome)
    (hdone : hearing.outcome = .done)
    (hacc : account k n job.id history e.before = .called job row contacts looked [hearing]) :
    Advances e k n registry job row booked? history s := by
  have hrow : e.before.tables.job? job.id = some row := congrArg Account.row? hacc
  have hentry : e.before.tables.processed? job.id = none := congrArg Account.booked? hacc
  have hop : s.task.operation? e.now = some (.completeProcessed job.id) := by
    rw [Task.operation?, hphase, ← h.own]
  obtain ⟨reply, hchange, hafter⟩ := h.answers hrow hop
  rw [hphase] at hafter
  have hphase? : e.after.phase? k n = some .announcing := hafter
  obtain ⟨hletters, hrow', hentry'⟩ : e.after.tables.deadLetters = e.before.tables.deadLetters ∧
      e.after.tables.job? job.id = some (row.completed e.now) ∧
      e.after.tables.processed? job.id = some ⟨job.id, e.now⟩ := by
    generalize e.after.tables = after at hchange
    cases hchange with
    | looked _ _ hlooks => cases hlooks
    | settled =>
      refine ⟨?_, Tables.job?_of_write (fun _ => rfl) (by rw [Store.record_job?, hrow]),
        Tables.processed?_of_record hentry⟩
      change (e.before.tables.record _).deadLetters = _
      unfold Tables.record
      split <;> rfl
  refine .of_phase hphase? ?_ (by rw [hphase]; decide)
  have hadd : account k n job.id (history ++ [e]) e.after =
      .recorded job row contacts looked e.now hearing := by
    rw [account_of_stride h.stride, hacc, hletters, hrow', hentry']
    simp [Account.add, Account.called, Account.recorded, Processor.entered, Stride.hearing?,
      Processor.outcome?, hop, hphase]
  rw [hadd]
  exact .announcing looked e.now contacts hearing hmissing hhandled hdone

/-- The notification. -/
theorem announcing (h : Safe e k n registry job s) {hearing : Hearing} {written : Instant}
    (hphase : s.task.phase = .announcing) (hmissing : booked? = none)
    (hhandled : Handled registry job contacts hearing.outcome) (hdone : hearing.outcome = .done)
    (hacc : account k n job.id history e.before = .recorded job row contacts looked written hearing) :
    Advances e k n registry job row booked? history s := by
  have hrow : e.before.tables.job? job.id = some (row.completed written) := congrArg Account.row? hacc
  have hentry : e.before.tables.processed? job.id = some ⟨job.id, written⟩ :=
    congrArg Account.booked? hacc
  have hop : s.task.operation? e.now = none := by rw [Task.operation?, hphase]
  obtain ⟨next, hleads, hphase?⟩ := h.leads (by simp [Processor.Rests, hphase])
  obtain rfl := (hleads.of_silence (by rw [hphase]; rfl)).2.2.2.1 hphase
  refine .of_phase hphase? ?_ (by rw [hphase]; decide)
  have hending : Ending registry job row booked? (account k n job.id (history ++ [e]) e.after) := by
    rw [account_of_stride h.stride, hacc, Stride.tables_of_silence h.stride hop, hrow, hentry]
    simp only [Account.add, Account.recorded, Processor.entered, Stride.hearing?, Processor.outcome?, hop,
      hphase, h.own, List.drop_length, List.append_nil]
    exact .completed looked written contacts hearing hmissing hhandled hdone
  exact .releasing _ hending

/-- The move to the dead letters. -/
theorem archiving (h : Safe e k n registry job s) {hearing : Hearing} {failure : Failure}
    (hphase : s.task.phase = .archiving failure.message) (hmissing : booked? = none)
    (hhandled : Handled registry job contacts hearing.outcome)
    (hfails : hearing.outcome.failure? = some failure)
    (hfinal : hearing.config.deadLetters.shouldMove job hearing.now = true)
    (hacc : account k n job.id history e.before = .called job row contacts looked [hearing]) :
    Advances e k n registry job row booked? history s := by
  have hrow : e.before.tables.job? job.id = some row := congrArg Account.row? hacc
  have hentry : e.before.tables.processed? job.id = none := congrArg Account.booked? hacc
  have hop : s.task.operation? e.now = some (.archive job failure.message) := by
    rw [Task.operation?, hphase, ← h.own]
  obtain ⟨reply, hchange, hafter⟩ := h.answers hrow hop
  rw [hphase] at hafter
  have hphase? : e.after.phase? k n = some .releasing := hafter
  obtain ⟨hletters, hrow', hentry'⟩ : e.after.tables.deadLetters = e.before.tables.deadLetters ++
        [Store.letterOf job failure.message e.now (e.before.tables.lastDeadLetterId + 1)] ∧
      e.after.tables.job? job.id = none ∧ e.after.tables.processed? job.id = none := by
    generalize e.after.tables = after at hchange
    cases hchange with
    | looked _ _ hlooks => cases hlooks
    | archived =>
      exact ⟨rfl, (Tables.deleteJob_job? _ _ _).trans (if_pos rfl), hentry⟩
  refine .of_phase hphase? ?_ (by rw [hphase]; simp [Phase.left])
  have hending : Ending registry job row booked? (account k n job.id (history ++ [e]) e.after) := by
    rw [account_of_stride h.stride, hacc, hletters, hrow', hentry', List.drop_left]
    simp only [Account.add, Account.called, Processor.entered, Stride.hearing?, Processor.outcome?, hop,
      hphase, List.append_nil]
    exact .archived looked e.now contacts hearing failure _ hmissing hhandled hfails
      ((DeadLetterPolicy.shouldMove_iff ..).mp hfinal)
  exact .releasing _ hending

/-- The write of the retry. -/
theorem rescheduling (h : Safe e k n registry job s) {hearing : Hearing} {failure : Failure}
    (hphase : s.task.phase = .rescheduling failure.message
      (Processor.retryDelay hearing.config job failure.message hearing.draw))
    (hmissing : booked? = none) (hhandled : Handled registry job contacts hearing.outcome)
    (hfails : hearing.outcome.failure? = some failure)
    (hagain : hearing.config.deadLetters.shouldMove job hearing.now = false)
    (hacc : account k n job.id history e.before = .called job row contacts looked [hearing]) :
    Advances e k n registry job row booked? history s := by
  have hrow : e.before.tables.job? job.id = some row := congrArg Account.row? hacc
  have hentry : e.before.tables.processed? job.id = none := congrArg Account.booked? hacc
  have hop : s.task.operation? e.now = some (.markFailed job.id failure.message (Processor.retryAt
      (Processor.retryDelay hearing.config job failure.message hearing.draw) e.now)) := by
    rw [Task.operation?, hphase, ← h.own]
  obtain ⟨reply, hchange, hafter⟩ := h.answers hrow hop
  rw [hphase] at hafter
  have hphase? : e.after.phase? k n = some .releasing := hafter
  obtain ⟨hletters, hrow', hentry'⟩ : e.after.tables.deadLetters = e.before.tables.deadLetters ∧
      e.after.tables.job? job.id = some (row.rescheduled failure.message (Processor.retryAt
        (Processor.retryDelay hearing.config job failure.message hearing.draw) e.now) e.now) ∧
      e.after.tables.processed? job.id = none := by
    generalize e.after.tables = after at hchange
    cases hchange with
    | looked _ _ hlooks => cases hlooks
    | rescheduled => exact ⟨rfl, Tables.job?_of_write (fun _ => rfl) hrow, hentry⟩
  have hnot : ¬ (job.maxAttempts ≤ job.attemptCount ∨
      hearing.config.deadLetters.staleAfter < hearing.now.since job.createdAt) := fun hfinal => by
    rw [(DeadLetterPolicy.shouldMove_iff ..).mpr hfinal] at hagain
    cases hagain
  refine .of_phase hphase? ?_ (by rw [hphase]; simp [Phase.left])
  have hending : Ending registry job row booked? (account k n job.id (history ++ [e]) e.after) := by
    rw [account_of_stride h.stride, hacc, hletters, hrow', hentry', List.drop_length]
    simp only [Account.add, Account.called, Processor.entered, Stride.hearing?, Processor.outcome?, hop,
      hphase, List.append_nil]
    exact .putOff looked e.now contacts hearing failure hmissing hhandled hfails hnot
  exact .releasing _ hending

/-- The release of the permit. -/
theorem releasing (h : Safe e k n registry job s) (hphase : s.task.phase = .releasing)
    (hending : Ending registry job row booked? (account k n job.id history e.before)) :
    Advances e k n registry job row booked? history s := by
  have hop : s.task.operation? e.now = none := by rw [Task.operation?, hphase]
  obtain ⟨next, hleads, hphase?⟩ := h.leads (by simp [Processor.Rests, hphase])
  obtain rfl := (hleads.of_silence (by rw [hphase]; rfl)).2.2.2.2 hphase
  have hadd : account k n job.id (history ++ [e]) e.after = account k n job.id history e.before := by
    rw [account_of_stride h.stride, Stride.tables_of_silence h.stride hop]
    simp [Account.add, account, Processor.entered, Stride.hearing?, Processor.outcome?, hop, hphase]
  refine .of_phase hphase? ?_ (by rw [hphase]; decide)
  rw [hadd]
  exact .gone _ hending

end Safe

/-- A task that is there has a step to take. -/
theorem Progress.left_pos {phase : Phase} {acc : Account}
    (h : Progress registry job row booked? (some phase) acc) : 0 < phase.left := by
  generalize hphase? : some phase = phase? at h
  cases h with
  | gone => cases hphase?
  | waiting phase waits =>
    rw [Option.some.inj hphase?]
    cases phase <;> first | decide | cases waits
  | archiving | rescheduling =>
    rw [Option.some.inj hphase?]
    simp [Phase.left]
  | _ =>
    rw [Option.some.inj hphase?]
    decide

/-- **A step of the task** leads from each stage of its progress to the next. -/
theorem Progress.next
    (h : Progress registry job row booked? (some s.task.phase) (account k n job.id history e.before))
    (hsafe : Safe e k n registry job s) : Advances e k n registry job row booked? history s := by
  generalize hphase? : some s.task.phase = phase? at h
  generalize hacc : account k n job.id history e.before = acc at h
  cases h with
  | checking => exact hsafe.checking (Option.some.inj hphase?) hacc
  | confirming looked recorded => exact hsafe.confirming (Option.some.inj hphase?) recorded hacc
  | waiting phase waits looked missing =>
    have hphase := Option.some.inj hphase?
    cases phase with
    | asking => exact hsafe.waiting (Or.inl hphase) missing hacc
    | queued => exact hsafe.waiting (Or.inr hphase) missing hacc
    | admitted => exact hsafe.admitted hphase missing hacc
    | _ => cases waits
  | running looked missing registered =>
    exact hsafe.running (Option.some.inj hphase?) missing registered hacc
  | completing looked contacts hearing missing handled succeeds =>
    exact hsafe.completing (Option.some.inj hphase?) missing handled succeeds hacc
  | archiving looked contacts hearing failure missing handled fails final =>
    exact hsafe.archiving (Option.some.inj hphase?) missing handled fails final hacc
  | rescheduling looked contacts hearing failure missing handled fails again =>
    exact hsafe.rescheduling (Option.some.inj hphase?) missing handled fails again hacc
  | announcing looked written contacts hearing missing handled succeeds =>
    exact hsafe.announcing (Option.some.inj hphase?) missing handled succeeds hacc
  | releasing _ ending =>
    subst hacc
    exact hsafe.releasing (Option.some.inj hphase?) ending
  | gone => cases hphase?

end Step

/-! ## Runs -/

/-- The task takes a step in this turn, and is not where it was. -/
def Occurrence.advances (e : Occurrence σ) (k n : Nat) : Bool :=
  (e.stride? k n).any fun s => e.after.task? k n != some s.task

/-- What a step of the task asks of the handlers: nothing, and the collaborators stay as they are, or one
thing, which the handler that is registered for its type does with them. -/
def Occurrence.AsksHandlers (e : Occurrence σ) (k n : Nat) (s : Stride σ) : Prop :=
  ∃ q, e.after.processors[k]? = some q ∧
    (e.contacts k n = [] ∧ q.collaborators = s.processor.collaborators ∨
      ∃ contact, e.contacts k n = [contact] ∧
        contact.Happens s.processor.registry s.processor.collaborators q.collaborators)

theorem Occurrence.asksHandlers {e : Occurrence σ} {k n : Nat} {s : Stride σ}
    (h : e.stride? k n = some s) : e.AsksHandlers k n s := by
  obtain ⟨haction, hp, hn⟩ := stride?_eq_some.mp h
  have hafter : e.after.processors[k]? =
      some (s.processor.step s.task e.act.moment s.draw e.session).1 := by
    rw [after_of_act haction hp, List.getElem?_set_self (List.getElem?_eq_some_iff.mp hp).1]
    simp only [Processor.act, hn]
  refine ⟨_, hafter, ?_⟩
  rw [contacts, h]
  exact s.processor.step_contacts s.task e.act.moment s.draw e.session

/-- A processor stays where it is, with the handlers it was made with. -/
theorem Occurrence.after_registry {e : Occurrence σ} {k : Nat} {p : Processor σ}
    (hp : e.before.processors[k]? = some p) :
    ∃ q, e.after.processors[k]? = some q ∧ q.registry = p.registry := by
  obtain ⟨q, hq, -⟩ := after_processor hp
  refine ⟨q, hq, ?_⟩
  rcases processor_before hq with hold | ⟨hnone, -⟩ | ⟨actor, deed, hactor, -, rfl⟩
  · cases hp.symm.trans hold
    rfl
  · rw [hp] at hnone
    cases hnone
  · cases hp.symm.trans hactor
    exact p.act_registry _ _ deed

/-- What is known of a task in every stretch of a run in which nothing goes wrong. -/
structure Tracked (k n : Nat) (registry : Registry σ) (job : Job) (row : Row)
    (booked? : Option LedgerEntry) (history : List (Occurrence σ)) (w : World σ) : Prop where
  handlers : ∃ p, w.processors[k]? = some p ∧ p.registry = registry
  migrated : w.tables.migrated = 3
  under : Under k n (·.job = job) w
  progress : Progress registry job row booked? (w.phase? k n) (account k n job.id history w)
  steps : history.countP (·.advances k n) + ((w.phase? k n).map (·.left)).getD 0 ≤ 8
  strides : ∀ e ∈ history, ∀ s, e.stride? k n = some s →
    Tables.Elsewhere (.job job.id) e.before.tables e.after.tables ∧
      (e.after.task? k n = some s.task → s.Waits e.act.moment.ticks) ∧ e.AsksHandlers k n s

theorem Occurrence.task_of_phase {e : Occurrence σ} {k n : Nat} {s : Stride σ}
    (h : e.stride? k n = some s) (hsame : e.after.phase? k n = some s.task.phase) :
    e.after.task? k n = some s.task := by
  rcases stride_cases h with ⟨-, hafter⟩ | ⟨phase, -, hafter⟩
  · exact hafter
  · rw [World.phase?, hafter] at hsame
    split at hsame
    · cases hsame
    · obtain rfl : phase = s.task.phase := Option.some.inj hsame
      rw [hafter, if_neg ‹_›]

theorem Occurrence.migrated (e : Occurrence σ) : e.after.tables.migrated = e.before.tables.migrated := by
  rcases e.tables_cases with ⟨-, hsame⟩ | ⟨_, _, -, -, hchange⟩
  · rw [hsame]
  · exact hchange.migrated

theorem migrated_run (turns : List (Turn σ)) : (World.empty.actAll turns).tables.migrated = 3 :=
  @Run.final_of_moments _ _ World.act (fun w : World σ => w.tables.migrated = 3) (fun _ => True)
    (fun e _ h => Occurrence.migrated e |>.trans h) World.empty turns rfl fun _ _ => trivial

theorem Tracked.next {k n : Nat} {registry : Registry σ} {job : Job} {row : Row}
    {booked? : Option LedgerEntry} {history : List (Occurrence σ)} {e : Occurrence σ}
    (h : Tracked k n registry job row booked? history e.before) (hspared : e.spares k n job.id = true) :
    Tracked k n registry job row booked? (history ++ [e]) e.after := by
  obtain ⟨p, hp, hregistry⟩ := h.handlers
  have hhandlers : ∃ q, e.after.processors[k]? = some q ∧ q.registry = registry := by
    obtain ⟨q, hq, hsame⟩ := Occurrence.after_registry hp
    exact ⟨q, hq, hsame.trans hregistry⟩
  have hmigrated := e.migrated.trans h.migrated
  have hunder := h.under.next (e := e) fun _ _ _ _ _ _ hjob => hjob
  cases hstride : e.stride? k n with
  | none =>
    obtain ⟨hkept, hrow, hentry⟩ := Occurrence.spares_away hspared hstride
    have hphase? : e.after.phase? k n = e.before.phase? k n :=
      congrArg _ (Occurrence.task_of_away hstride hkept h.under.given)
    refine ⟨hhandlers, hmigrated, hunder, ?_, ?_, Run.forall_mem_snoc h.strides fun s hs => ?_⟩
    · rw [account_of_away hstride hrow hentry, hphase?]
      exact h.progress
    · have hnone : e.advances k n = false := by rw [Occurrence.advances, hstride]; rfl
      rw [Run.countP_snoc, hnone, hphase?]
      exact h.steps
    · rw [hstride] at hs
      cases hs
  | some s =>
    have htask := (Occurrence.steps_of_stride hstride).2
    have hbefore : e.before.phase? k n = some s.task.phase := by rw [World.phase?, htask]; rfl
    have hown : s.processor.registry = registry := by
      cases hp.symm.trans (Occurrence.stride?_eq_some.mp hstride).2.1
      exact hregistry
    have hsafe : Safe e k n registry job s :=
      ⟨hstride, hown, h.under.like _ htask, hspared, h.migrated⟩
    have hadvances : Advances e k n registry job row booked? history s := by
      have hprogress := h.progress
      rw [hbefore] at hprogress
      exact hprogress.next hsafe
    have hsteps := h.steps
    rw [hbefore, Option.map_some, Option.getD_some] at hsteps
    refine ⟨hhandlers, hmigrated, hunder, hadvances.progress, ?_,
      Run.forall_mem_snoc h.strides fun s' hs' => ?_⟩
    · rw [Run.countP_snoc]
      rcases hadvances.nearer with hnearer | ⟨hsame, -⟩
      · have hone := Bool.toNat_le (e.advances k n)
        omega
      · have hrests : e.advances k n = false := by
          rw [Occurrence.advances, hstride, Option.any_some, Occurrence.task_of_phase hstride hsame,
            bne_self_eq_false]
        rw [hrests, hsame, Option.map_some, Option.getD_some]
        exact hsteps
    · cases hs'.symm.trans hstride
      refine ⟨hsafe.own ▸ Stride.elsewhere hstride, fun hsame => ?_, Occurrence.asksHandlers hstride⟩
      rcases hadvances.nearer with hnearer | ⟨-, hwaits⟩
      · rw [World.phase?, hsame] at hnearer
        exact absurd hnearer (Nat.lt_irrefl _)
      · exact hwaits

/-- **A job that is worked off.** A job has been claimed, in any run; its task has not begun, and its row
is there. From then on nothing goes wrong: the store and the gate refuse the task nothing, and nobody else
touches its job. Whatever the processors are configured to, whatever the handler does and whatever else
happens in between:

* no step of the task touches the row or the entry of another job or a dead letter that is there, a step
  after which the task is where it was has found it waiting, at the gate or for its handler, and what a step
  asks of the handlers is done by the one that is registered, with the collaborators as they are;
* the task takes less than eight other steps, or eight and is gone;
* once it is gone, its account is one of the four endings, for the handlers its processor was made with, and
  it has nothing at the gates any more. -/
theorem job_worked_off (turns later : List (Turn σ)) (hturns : ∀ turn ∈ turns, turn.BuildsGates)
    (hlater : ∀ turn ∈ later, turn.BuildsGates) {k n : Nat} {job : Job} {row : Row}
    (htask : (World.empty.actAll turns).task? k n = some ⟨n, job, .checking⟩)
    (hrow : (World.empty.actAll turns).tables.job? job.id = some row)
    (hspared : ∀ e ∈ (World.empty.actAll turns).occurrences later, e.spares k n job.id = true) :
    let claimed := World.empty.actAll turns
    let history := claimed.occurrences later
    let w := claimed.actAll later
    (∀ e ∈ history, ∀ s, e.stride? k n = some s →
      Tables.Elsewhere (.job job.id) e.before.tables e.after.tables ∧
        (e.after.task? k n = some s.task → s.Waits e.act.moment.ticks) ∧ e.AsksHandlers k n s) ∧
    history.countP (·.advances k n) ≤ 8 ∧
    (w.task? k n ≠ none → history.countP (·.advances k n) < 8) ∧
    (w.task? k n = none → ∃ p q, claimed.processors[k]? = some p ∧ w.processors[k]? = some q ∧
      Ending p.registry job row (claimed.tables.processed? job.id) (account k n job.id history w) ∧
      q.limiter.waiter? n = none ∧ q.limiter.permit? n = none ∧
        ∀ gate ∈ q.limiter.gates, n ∉ gate.slots.waiting ∧ n ∉ gate.slots.held) := by
  intro claimed history w
  obtain ⟨p, hp, hn⟩ := Option.bind_eq_some_iff.mp htask
  have hnew : n < p.nextTask := (checked_run turns).numbered k p hp n (by rw [hn]; rfl)
  have hstart : Tracked k n p.registry job row (claimed.tables.processed? job.id) [] claimed := by
    refine ⟨⟨p, hp, rfl⟩, migrated_run turns, ⟨⟨p, hp, hnew⟩, fun task hother => ?_⟩, ?_, ?_,
      fun _ he => by cases he⟩
    · cases htask.symm.trans hother
      rfl
    · rw [World.phase?, htask, account, hrow]
      exact .checking
    · rw [World.phase?, htask]
      exact Nat.le_refl 8
  have htracked : Tracked k n p.registry job row (claimed.tables.processed? job.id) history w := by
    refine @Run.invariant_of_past _ _ World.act (fun _ e => Occurrence.spares e k n job.id = true)
      (Tracked k n p.registry job row (claimed.tables.processed? job.id)) claimed hstart
      (fun _ w turn hspared h => Tracked.next (e := ⟨w, turn⟩) h hspared) later
      fun earlier e rest hsplit => hspared e ?_
    rw [World.occurrences, hsplit]
    exact List.mem_append_right _ (List.mem_cons_self ..)
  have haudited : w.Audited := World.audited_run (World.audited_run
    (fun _ _ h => by cases h) turns hturns) later hlater
  have hsteps := htracked.steps
  refine ⟨htracked.strides, by omega, fun hthere => ?_, fun hgone => ?_⟩
  · obtain ⟨task, htask'⟩ := Option.ne_none_iff_exists'.mp hthere
    have hprogress := htracked.progress
    rw [World.phase?, htask', Option.map_some] at hsteps hprogress
    have hleft := hprogress.left_pos
    rw [Option.map_some, Option.getD_some] at hsteps
    omega
  · obtain ⟨q, hq, -⟩ := htracked.under.given
    obtain ⟨hattended, hcounted⟩ := haudited k q hq
    have hending : Ending p.registry job row (claimed.tables.processed? job.id)
        (account k n job.id history w) := by
      have hprogress := htracked.progress
      rw [World.phase?, hgone, Option.map_none] at hprogress
      cases hprogress with
      | gone _ ending => exact ending
    exact ⟨p, q, hp, hq, hending,
      hattended.given_back hcounted ((World.task?_of_processor hq n).symm.trans hgone)⟩

/-- The turn brings a new processor. -/
def Turn.launches (turn : Turn σ) : Bool :=
  match turn.action with
  | .launch _ _ _ _ => true
  | _ => false

theorem Turn.buildsGates_of_launches {turn : Turn σ} (h : turn.launches = false) : turn.BuildsGates := by
  intro config registry limiter collaborators hlaunch
  rw [launches, hlaunch] at h
  cases h

/-- A processor has claimed a job. -/
def justClaimed : List (Turn Bool) :=
  [.quiet 0 .launchBehindDoor, .quiet 0 (.enqueue "a"), .quiet 1 (.act 0 .claim)]

/-- The job is worked off while a second one comes in, is claimed and queues for its slot. Its handler lets
the task wait once. -/
def workedOff : List (Turn Bool) :=
  [.quiet 1 (.act 0 (.step 0 0)),
   .quiet 1 (.enqueue "a"),
   .quiet 1 (.act 0 (.step 0 0)),
   .quiet 2 (.act 0 .claim),
   .quiet 2 (.act 0 (.step 0 0)),
   .quiet 2 (.act 0 (.step 1 0)),
   .quiet 2 (.act 0 (.step 1 0)),
   .quiet 2 (.act 0 (.step 0 0)),
   .quiet 3 (.act 0 (.disturb true)),
   .quiet 3 (.act 0 (.step 0 0)),
   .quiet 3 (.act 0 (.step 0 0)),
   .quiet 4 (.act 0 (.step 0 0)),
   .quiet 4 (.act 0 (.step 0 0))]

def claimedJob : Job :=
  { id := 1, tenantId := none, jobType := "a", payload := [], status := .processing,
    idempotencyKey := none, attemptCount := 1, maxAttempts := 5, lastError := none,
    runAt := Store.wholeSecond 0, startedAt := some (Store.wholeSecond 1), completedAt := none,
    createdAt := Store.wholeSecond 0, updatedAt := Store.wholeSecond 1 }

def claimedRow : Row :=
  { id := 1, tenantId := none, jobType := "a", payload := [], status := Status.processing.name,
    idempotencyKey := none, attemptCount := 1, maxAttempts := 5, lastError := none,
    runAt := Store.wholeSecond 0, startedAt := some (Store.wholeSecond 1), completedAt := none,
    createdAt := Store.wholeSecond 0, updatedAt := Store.wholeSecond 1 }

theorem job_worked_off_behindDoor :
    let claimed := World.empty.actAll justClaimed
    let w := claimed.actAll workedOff
    w.task? 0 0 = none ∧
    (account 0 0 1 (claimed.occurrences workedOff) w).contacts =
      [.called "a" ⟨1, "a", none, 1⟩ [] .waiting, .resumed "a" ⟨1, "a", none, 1⟩ .done] ∧
    (account 0 0 1 (claimed.occurrences workedOff) w).told = [⟨none, "job_completed", "a"⟩] ∧
    ∃ p q, claimed.processors[0]? = some p ∧ w.processors[0]? = some q ∧
      Ending p.registry claimedJob claimedRow none (account 0 0 1 (claimed.occurrences workedOff) w) ∧
      q.limiter.permit? 0 = none := by
  intro claimed w
  have hturns : ∀ turn ∈ justClaimed, turn.BuildsGates := by
    refine List.forall_mem_cons.mpr ⟨?_, fun turn hturn => Turn.buildsGates_of_launches ?_⟩
    · rintro config registry limiter collaborators hlaunch
      cases hlaunch
      exact ⟨_, _, rfl⟩
    · have hnone : ∀ turn ∈ justClaimed.tail, turn.launches = false := by decide
      exact hnone turn hturn
  have hlater : ∀ turn ∈ workedOff, turn.BuildsGates := fun turn hturn => by
    have hnone : ∀ turn ∈ workedOff, turn.launches = false := by decide
    exact Turn.buildsGates_of_launches (hnone turn hturn)
  have hgone : w.task? 0 0 = none := by decide +kernel
  have htask : claimed.task? 0 0 = some ⟨0, claimedJob, .checking⟩ := by decide +kernel
  have hrow : claimed.tables.job? 1 = some claimedRow := by decide +kernel
  have hspared : ∀ e ∈ claimed.occurrences workedOff, e.spares 0 0 1 = true := by decide +kernel
  obtain ⟨-, -, -, hend⟩ := job_worked_off justClaimed workedOff hturns hlater htask hrow hspared
  obtain ⟨p, q, hp, hq, hending, -, hpermit, -⟩ := hend hgone
  exact ⟨hgone, by decide +kernel, by decide +kernel, p, q, hp, hq, hending, hpermit⟩

end DurableJobs
