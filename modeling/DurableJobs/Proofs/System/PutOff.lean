import DurableJobs.Proofs.System.Claims
import DurableJobs.Proofs.System.Dispatch
import DurableJobs.Proofs.Time.Delay

/-!
# Jobs that are put off

A job whose handler fails is put off for a while: for the backoff of its attempt, or longer if a provider
asks for it. From its claim on its row is not pending, unless somebody puts the job off or takes it back,
and then it is due at the time that was written (`Sleeps`). So when the job comes back hangs on that time
alone, and `put_off_job_waits` puts together what the task writes and what the claims make of it.
-/

set_option autoImplicit false

namespace DurableJobs

open Instant (tenThousand)
open Store (Operation Reply)

variable {σ : Type}

/-! ## A failure and what its task does next -/

namespace Processor

theorem settle_again {config : ProcessorConfig} {job : Job} {outcome : HandlerOutcome} {now : Instant}
    {message : String} (hfails : outcome.failure?.map (·.message) = some message)
    (hagain : config.deadLetters.shouldMove job now = false) (draw : Nat) (metrics : Metrics) :
    (settle config job outcome now draw metrics).1 =
      .rescheduling message (retryDelay config job message draw) := by
  obtain ⟨failure, hfailure, rfl⟩ := Option.map_eq_some_iff.mp hfails
  simp only [settle, hfailure, hagain, Bool.false_eq_true, if_false]

theorem settle_ne_ended (config : ProcessorConfig) (job : Job) (outcome : HandlerOutcome) (now : Instant)
    (draw : Nat) (metrics : Metrics) : (settle config job outcome now draw metrics).1 ≠ .ended := by
  unfold settle
  cases outcome.failure? with
  | none => simp
  | some failure => cases config.deadLetters.shouldMove job now <;> simp

/-- A task that hears an outcome goes where the outcome leads it. -/
theorem step_settled {p : Processor σ} {task : Task} {outcome : HandlerOutcome} {moment : Moment}
    (hfound : p.task? task.number = some task)
    (hears : p.outcome? task.job task.phase = some outcome) (draw : Nat) (s : Store.Session) :
    (p.step task moment draw s).1.task? task.number =
      some { task with
        phase := (settle p.config task.job outcome moment.wall draw p.metrics).1 } := by
  obtain ⟨collaborators, hstep⟩ := step_of_outcome hears moment draw s
  have hgoes := settle_ne_ended p.config task.job outcome moment.wall draw p.metrics
  rw [hstep, finish]
  rcases hsettle : settle p.config task.job outcome moment.wall draw p.metrics with ⟨phase, metrics⟩
  rw [hsettle] at hgoes
  dsimp only
  rw [moveTo_task?, if_pos rfl, if_neg hgoes]
  exact congrArg (Option.map _) hfound

end Processor

/-- The handler of a task fails with a message, and its job is to be tried again. -/
structure Occurrence.Fails (e : Occurrence σ) (k n : Nat) (p : Processor σ) (task : Task)
    (message : String) (draw : Nat) : Prop where
  action : e.act.action = .act k (.step n draw)
  processor : e.before.processors[k]? = some p
  found : p.task? n = some task
  hears : ∃ outcome, p.outcome? task.job task.phase = some outcome ∧
    outcome.failure?.map (·.message) = some message
  again : p.config.deadLetters.shouldMove task.job e.now = false

variable {e : Occurrence σ} {k n : Nat}

namespace Occurrence.Fails

variable {p : Processor σ} {task : Task} {message : String} {draw : Nat}

theorem steps (h : e.Fails k n p task message draw) : e.Steps k n task :=
  ⟨⟨draw, h.action⟩, (World.task?_of_processor h.processor n).trans h.found⟩

theorem operation?_eq_none (h : e.Fails k n p task message draw) : e.operation? = none := by
  obtain ⟨outcome, hears, -⟩ := h.hears
  rw [h.steps.operation?, Task.operation?]
  generalize task.phase = phase at hears
  cases phase <;> first | rfl | cases hears

/-- Its task is about to put the job off for the least wait. -/
theorem after_task? (h : e.Fails k n p task message draw) :
    e.after.task? k n =
      some ⟨n, task.job, .rescheduling message (Processor.retryDelay p.config task.job message draw)⟩ := by
  obtain ⟨outcome, hears, hfails⟩ := h.hears
  obtain rfl : task.number = n := Processor.number_of_task? h.found
  rw [Occurrence.after_task? h.action h.processor, if_pos rfl]
  simp only [Processor.act, h.found]
  have hphase := Processor.settle_again hfails h.again draw p.metrics
  exact (Processor.step_settled h.found hears draw e.session).trans
    (congrArg (fun phase => some { task with phase }) hphase)

end Occurrence.Fails

/-- A processor has given the number out, and whatever task has it is like this. -/
structure Under (k n : Nat) (like : Task → Prop) (w : World σ) : Prop where
  given : ∃ p, w.processors[k]? = some p ∧ n < p.nextTask
  like : ∀ task, w.task? k n = some task → like task

/-- What the ways of a task keep stays true of the task with a number, since the number is not given out
again. -/
theorem Under.next {like : Task → Prop}
    (hleads : ∀ (p : Processor σ) task now reply? phase, Leads p task.job now reply? task.phase phase →
      like task → like { task with phase })
    (h : Under k n like e.before) : Under k n like e.after where
  given := by
    obtain ⟨p, hp, hn⟩ := h.given
    obtain ⟨q, hq, hle⟩ := Occurrence.after_processor hp
    exact ⟨q, hq, Nat.lt_of_lt_of_le hn hle⟩
  like task hafter := by
    have hfate := e.taskFate k n
    rw [hafter] at hfate
    generalize hbefore : e.before.task? k n = task? at hfate
    cases hfate with
    | kept | rested => exact h.like task hbefore
    | moved p old phase _ _ hway => exact hleads p old _ _ phase hway (h.like old hbefore)
    | spawned p job _ hp hnew =>
      obtain ⟨q, hq, hn⟩ := h.given
      cases hp.symm.trans hq
      omega

theorem Under.run {like : Task → Prop}
    (hleads : ∀ (p : Processor σ) task now reply? phase, Leads p task.job now reply? task.phase phase →
      like task → like { task with phase })
    {w : World σ} (h : Under k n like w) (turns : List (Turn σ)) : Under k n like (w.actAll turns) :=
  Run.final_of_moments (fun (e : Occurrence σ) (_ : True) => Under.next (e := e) hleads) w turns h
    fun _ _ => trivial

/-- The task is about to put its job off as it stands here, or has let it go. -/
def Task.putsOffOrLetsGo (job : Job) (message : String) (delay : Span) (task : Task) : Prop :=
  (task.job = job ∧ task.phase = .rescheduling message delay) ∨ task.phase.holds = false

theorem Task.putsOffOrLetsGo_of_leads {job : Job} {message : String} {delay : Span} {p : Processor σ}
    {task : Task} {now : Instant} {reply? : Option (Except StoreError Reply)} {phase : Phase}
    (h : Leads p task.job now reply? task.phase phase) (htask : task.putsOffOrLetsGo job message delay) :
    { task with phase }.putsOffOrLetsGo job message delay := by
  refine Or.inr ?_
  rcases htask with ⟨-, hphase⟩ | hgone
  · rw [hphase] at h
    rw [h.of_rescheduling]
    rfl
  · exact Bool.eq_false_iff.mpr fun hholds => Bool.eq_false_iff.mp hgone (h.holds_before hholds)

/-! ## A row that sleeps -/

namespace Store.Operation

/-- The operation puts a job off. -/
def putsOff (id : Int) : Operation → Bool
  | .markFailed other _ _ => other == id
  | _ => false

end Store.Operation

/-- The job is put off in this turn, or taken back. -/
def Occurrence.putsBack (e : Occurrence σ) (id : Int) : Bool :=
  (e.operation?.any (·.putsOff id) && e.reply?.any (·.isOk)) || e.takesBack id

/-- Between two turns nobody puts the job off or takes it back. -/
def Occurrence.LeftAloneUntil (e e' : Occurrence σ) (id : Int) : Prop :=
  ∃ turns, e'.before = e.after.actAll turns ∧
    ∀ between ∈ e.after.occurrences turns, between.putsBack id = false

/-- The row of a job is not pending, or due at this time. -/
structure Sleeps (id : Int) (due : Instant) (w : World σ) : Prop where
  ordered : w.tables.Ordered
  old : id ≤ w.tables.lastJobId
  pending : ∀ row, w.tables.job? id = some row → row.hasStatus .pending = true → row.runAt = due

/-- Nobody takes the job back in this turn, and if it is put off, then to this time. -/
structure Occurrence.LeavesAsleep (e : Occurrence σ) (id : Int) (due : Instant) : Prop where
  stays : e.takesBack id = false
  ending : ∀ error retryAt, e.operation? = some (.markFailed id error retryAt) →
    e.reply? = some (.ok .done) → retryAt = due

theorem Sleeps.next {id : Int} {due : Instant} (hleaves : e.LeavesAsleep id due)
    (h : Sleeps id due e.before) : Sleeps id due e.after where
  ordered := e.ordered h.ordered
  old := Int.le_trans h.old e.lastJobId_le
  pending row hafter hpending := by
    by_cases hsame : e.before.tables.job? id = e.after.tables.job? id
    · exact h.pending row (hsame.trans hafter) hpending
    rcases e.tables_cases with ⟨-, heq⟩ | ⟨operation, reply, hop, hreply, hchange⟩
    · rw [heq] at hsame
      exact absurd rfl hsame
    have hfate := hchange.fate h.ordered id
    rw [hafter] at hfate hsame
    rcases hfate.pending_by hpending with hkept | hfresh | ⟨error, rfl, rfl⟩ | ⟨olderThan, rfl⟩
    · exact absurd hkept hsame
    · have := h.old
      omega
    · exact hleaves.ending error row.runAt hop hreply
    · have htaken : e.takesBack id = true := by
        rw [Occurrence.takesBack, hop, hafter]
        exact Bool.and_eq_true_iff.mpr ⟨rfl, bne_iff_ne.mpr hsame⟩
      rw [hleaves.stays] at htaken
      cases htaken

/-- A job that has been claimed is not pending. -/
theorem Sleeps.of_claimed (ho : e.before.tables.Ordered) {job : Job} (h : e.claimed? = some job)
    (due : Instant) : Sleeps job.id due e.after where
  ordered := e.ordered ho
  old := by
    obtain ⟨row, hrow, -⟩ := Occurrence.claimed?_spec ho h
    obtain ⟨hlive, hid⟩ := Store.Tables.mem_of_job? hrow
    exact Int.le_trans (hid ▸ ho.handedOut row hlive) e.lastJobId_le
  pending row hafter hpending := by
    obtain ⟨claimed, -, -, hclaimed, -⟩ := Occurrence.claimed?_spec ho h
    rw [hclaimed] at hafter
    cases hafter
    cases Store.Row.hasStatus_unique hpending (b := .processing) (beq_iff_eq.mpr rfl)

/-! ## Turns that leave a job asleep -/

namespace Occurrence

variable {id : Int} {due : Instant}

theorem leavesAsleep_of_operation (h : e.operation? = none) : e.LeavesAsleep id due where
  stays := by rw [takesBack, h]; rfl
  ending _ _ hop _ := by rw [h] at hop; cases hop

theorem leavesAsleep_of_putsBack (h : e.putsBack id = false) : e.LeavesAsleep id due where
  stays := (Bool.or_eq_false_iff.mp h).2
  ending error retryAt hop hreply := by
    have hputs := (Bool.or_eq_false_iff.mp h).1
    rw [hop, hreply] at hputs
    simp [Operation.putsOff, Except.isOk, Except.toBool] at hputs

/-- The task puts the job off to the time that its delay leads to. -/
theorem leavesAsleep_of_rescheduling {job : Job} {message : String} {delay : Span}
    (hsteps : e.Steps k n ⟨n, job, .rescheduling message delay⟩) :
    e.LeavesAsleep job.id (Processor.retryAt delay e.now) where
  stays := by rw [takesBack, hsteps.operation?]; rfl
  ending error retryAt hop _ := by
    rw [hsteps.operation?] at hop
    cases hop
    rfl

end Occurrence

theorem Sleeps.until {id : Int} {due : Instant} {e e' : Occurrence σ} (h : Sleeps id due e.after)
    (halone : e.LeftAloneUntil e' id) : Sleeps id due e'.before := by
  obtain ⟨turns, hbefore, hall⟩ := halone
  rw [hbefore]
  exact Run.final_of_moments (fun _ => Sleeps.next) e.after turns h fun between hbetween =>
    Occurrence.leavesAsleep_of_putsBack (hall between hbetween)

theorem Occurrence.LeftAloneUntil.numbered {e e' : Occurrence σ} {id : Int}
    (halone : e.LeftAloneUntil e' id) (h : e.before.Numbered) : e'.before.Numbered := by
  obtain ⟨turns, hbefore, -⟩ := halone
  rw [hbefore]
  exact Run.final_of_moments (fun (e : Occurrence σ) (_ : True) => e.after_numbered) e.after turns
    (e.after_numbered h) fun _ _ => trivial

namespace Sleeps

variable {id : Int} {clock : Instant} {delay : Span}

/-- A claim that answers the job comes after the delay. -/
theorem claimed_after (h : Sleeps id (Processor.retryAt delay clock) e.before) (hclock : clock.IsReading)
    (hnow : e.now.IsReading) {job : Job} (hjob : e.claimed? = some job) (hid : job.id = id) :
    clock.totalNanos + delay.nanos ≤ e.now.totalNanos ∨
      tenThousand ≤ clock.totalNanos + delay.nanos := by
  obtain ⟨row, hrow, hdue, -⟩ := Occurrence.claimed?_spec h.ordered hjob
  rw [hid] at hrow
  have hrunAt := h.pending row hrow (Store.Row.pending_of_isDue hdue)
  have hstored := (Bool.and_eq_true_iff.mp hdue).2
  rw [hrunAt] at hstored
  exact Processor.delay_of_storedAtMost hclock hnow hstored

/-- A pending row is due after the delay, and at once if that leads too far. -/
theorem due_iff {w : World σ} (h : Sleeps id (Processor.retryAt delay clock) w)
    (hstanding : w.tables.standing id = some Status.pending.name) (hclock : clock.IsReading) :
    ∃ row, w.tables.job? id = some row ∧
      ∀ moment : Instant, moment.FourDigits → clock.totalNanos ≤ moment.totalNanos →
        (row.isDue moment = true ↔ clock.totalNanos + delay.nanos ≤ moment.totalNanos ∨
          tenThousand ≤ clock.totalNanos + delay.nanos) := by
  obtain ⟨row, hrow, hstatus⟩ := Option.map_eq_some_iff.mp hstanding
  have hpending : row.hasStatus .pending = true := beq_iff_eq.mpr hstatus
  have hrunAt := h.pending row hrow hpending
  refine ⟨row, hrow, fun moment hmoment hlater => ?_⟩
  rw [Store.Row.isDue, hpending, Bool.true_and, hrunAt]
  exact Processor.storedAtMost_retryAt_iff hclock hmoment hlater

end Sleeps

/-- The task that has heard of the failure puts the job off as it was told, if it comes to that. -/
theorem Occurrence.Fails.rescheduling {hear put : Occurrence σ} {p : Processor σ} {task task' : Task}
    {message : String} {draw : Nat} {id : Int} (h : hear.Fails k n p task message draw)
    (hn : n < p.nextTask) (halone : hear.LeftAloneUntil put id) (hsteps : put.Steps k n task')
    (hholds : task'.phase.holds = true) :
    task' = ⟨n, task.job, .rescheduling message (Processor.retryDelay p.config task.job message draw)⟩ := by
  obtain ⟨turns, hbefore, -⟩ := halone
  have hunder : Under k n
      (·.putsOffOrLetsGo task.job message (Processor.retryDelay p.config task.job message draw))
      hear.after := by
    obtain ⟨q, hq, hle⟩ := Occurrence.after_processor h.processor
    refine ⟨⟨q, hq, Nat.lt_of_lt_of_le hn hle⟩, fun behind hbehind => ?_⟩
    rw [h.after_task?] at hbehind
    cases hbehind
    exact Or.inl ⟨rfl, rfl⟩
  have hlater := hunder.run (fun _ _ _ _ _ => Task.putsOffOrLetsGo_of_leads) turns
  rw [← hbefore] at hlater
  obtain ⟨p', hp', hfound⟩ := Option.bind_eq_some_iff.mp hsteps.2
  have hnumber := Processor.number_of_task? hfound
  rcases hlater.like task' hsteps.2 with ⟨hjob, hphase⟩ | hgone
  · obtain ⟨number, job, phase⟩ := task'
    cases hnumber
    cases hjob
    cases hphase
    rfl
  · rw [hholds] at hgone
    cases hgone

/-- **How long a job is put off.** A job is claimed, its handler fails, and its task writes that it is put
off; nobody else puts it off or takes it back. No claim answers it before the least wait of its failure
is over, counted from the clock of the write, as long as the wait ends before the year 10000; one that
would end later is no wait at all, and its row is due at once. -/
theorem put_off_job_waits (before : List (Turn σ)) (claim hear put again : Occurrence σ) {k n draw : Nat}
    {p : Processor σ} {task task' : Task} {message message' : String} {delay : Span}
    (hstart : claim.before = World.empty.actAll before) (hclaim : claim.claimed? = some task.job)
    (hworking : claim.LeftAloneUntil hear task.job.id) (hfails : hear.Fails k n p task message draw)
    (hthinking : hear.LeftAloneUntil put task.job.id) (hput : put.Steps k n task')
    (hputs : task'.phase = .rescheduling message' delay)
    (hwaiting : put.LeftAloneUntil again task.job.id)
    (hclock : put.now.IsReading) (hclock' : again.now.IsReading) :
    (∀ job, again.claimed? = some job → job.id = task.job.id →
      put.now.totalNanos + Processor.leastWait p.config task.job message draw ≤ again.now.totalNanos ∨
        tenThousand ≤ put.now.totalNanos + Processor.leastWait p.config task.job message draw) ∧
    (∀ answer, put.reply? = some (.ok answer) →
      ∃ row, put.after.tables.job? task.job.id = some row ∧
        ∀ moment : Instant, moment.FourDigits → put.now.totalNanos ≤ moment.totalNanos →
          (row.isDue moment = true ↔
            put.now.totalNanos + Processor.leastWait p.config task.job message draw ≤
                moment.totalNanos ∨
              tenThousand ≤
                put.now.totalNanos + Processor.leastWait p.config task.job message draw)) := by
  have ho : claim.before.tables.Ordered := hstart ▸ ordered_run before
  have hnumbered := hworking.numbered (hstart ▸ (checked_run before).numbered)
  have hn : n < p.nextTask := hnumbered k p hfails.processor n (by rw [hfails.found]; rfl)
  obtain rfl := hfails.rescheduling hn hthinking hput (by rw [hputs]; rfl)
  -- the row sleeps behind the claim, and every turn from there on leaves it asleep
  set due := Processor.retryAt (Processor.retryDelay p.config task.job message draw) put.now
  have hclaimed : Sleeps task.job.id due claim.after := .of_claimed ho hclaim due
  have hfailed : Sleeps task.job.id due hear.after :=
    (hclaimed.until hworking).next (Occurrence.leavesAsleep_of_operation hfails.operation?_eq_none)
  have hwritten : Sleeps task.job.id due put.after :=
    (hfailed.until hthinking).next (Occurrence.leavesAsleep_of_rescheduling hput)
  have hwaited : Sleeps task.job.id due again.before := hwritten.until hwaiting
  rw [← Processor.retryDelay_nanos]
  refine ⟨fun job hjob hid => hwaited.claimed_after hclock hclock' hjob hid, fun answer hreply => ?_⟩
  have hchange := Occurrence.change hput.operation? hreply
  exact hwritten.due_iff (hchange.standing_of_verdict rfl) hclock

/-! ## A job that is refused -/

/-- The turns before: a processor whose handler fails with a message, and a job. -/
def refusing (message : String) : List (Turn Unit) :=
  [.quiet 0 (.launch ProcessorConfig.standard (Registry.empty.register "a"
     (.immediate fun _ _ s => (.failed (.other [message]), s))) .standard ()),
   .quiet 0 (.enqueue "a")]

/-- A step of the task. -/
def refusedStep (second : Nat) : Turn Unit := .quiet second (.act 0 (.step 0 0))

def refusedClaim (message : String) : Occurrence Unit :=
  World.empty.next (refusing message) (.quiet 1 (.act 0 .claim))

/-- The task looks into the ledger, is admitted and hears of the failure. -/
def refusedCall (message : String) : Occurrence Unit :=
  (refusedClaim message).after.next [refusedStep 1, refusedStep 1] (refusedStep 1)

/-- The job is put off at second 2. -/
def refusedWrite (message : String) : Occurrence Unit :=
  (refusedCall message).after.next [] (refusedStep 2)

/-- A processor asks for a job. -/
def refusedAgain (message : String) (second : Nat) : Occurrence Unit :=
  (refusedWrite message).after.next [] (.quiet second (.act 0 .claim))

def refusedJob : Job :=
  { id := 1, tenantId := none, jobType := "a", payload := [], status := .processing,
    idempotencyKey := none, attemptCount := 1, maxAttempts := 5, lastError := none,
    runAt := Store.wholeSecond 0, startedAt := some (Store.wholeSecond 1), completedAt := none,
    createdAt := Store.wholeSecond 0, updatedAt := Store.wholeSecond 1 }

theorem refusedCall_fails (message : String) (wait : Nat)
    (h : (refusedCall message).before.processors[0]?.any fun p =>
      decide (p.task? 0 = some ⟨0, refusedJob, .admitted⟩ ∧
        p.outcome? refusedJob .admitted = some (.failed (.other [message])) ∧
        Failure.chainText [message] = message ∧
        p.config.deadLetters.shouldMove refusedJob (refusedCall message).now = false ∧
        Processor.leastWait p.config refusedJob message 0 = wait)) :
    ∃ p, (refusedCall message).Fails 0 0 p ⟨0, refusedJob, .admitted⟩ message 0 ∧
      Processor.leastWait p.config refusedJob message 0 = wait := by
  obtain ⟨p, hp, hall⟩ := (Option.any_eq_true _ _).mp h
  obtain ⟨hfound, hears, hmessage, hagain, hwait⟩ := of_decide_eq_true hall
  exact ⟨p, ⟨rfl, hp, hfound, ⟨_, hears, congrArg some hmessage⟩, hagain⟩, hwait⟩

/-- A provider that asks for half a minute. -/
def halfMinute : String := "429 retry-after: 30"

theorem put_off_job_waits_refused :
    (refusedAgain halfMinute 31).claimed? = none ∧
    (refusedAgain halfMinute 32).claimed?.map (·.id) = some 1 ∧
    (∀ job, (refusedAgain halfMinute 32).claimed? = some job → job.id = 1 →
      2000000000 + 30000000000 ≤ (refusedAgain halfMinute 32).now.totalNanos ∨
        tenThousand ≤ 2000000000 + 30000000000) ∧
    (∀ answer, (refusedWrite halfMinute).reply? = some (.ok answer) →
      ∃ row, (refusedWrite halfMinute).after.tables.job? 1 = some row ∧
        ∀ moment : Instant, moment.FourDigits → 2000000000 ≤ moment.totalNanos →
          (row.isDue moment = true ↔ 2000000000 + 30000000000 ≤ moment.totalNanos ∨
            tenThousand ≤ 2000000000 + 30000000000)) := by
  obtain ⟨p, hfails, hwait⟩ := refusedCall_fails halfMinute 30000000000 (by decide +kernel)
  have hput : (refusedWrite halfMinute).Steps 0 0
      ⟨0, refusedJob, .rescheduling halfMinute (Span.ofSeconds 30)⟩ := ⟨⟨0, rfl⟩, by decide +kernel⟩
  have h := put_off_job_waits (refusing halfMinute) (refusedClaim halfMinute) (refusedCall halfMinute)
    (refusedWrite halfMinute) (refusedAgain halfMinute 32) rfl (by decide)
    ⟨[refusedStep 1, refusedStep 1], rfl, by decide⟩ hfails ⟨[], rfl, by decide⟩ hput rfl
    ⟨[], rfl, by decide⟩ ⟨by decide, by decide⟩ ⟨by decide, by decide⟩
  rw [hwait] at h
  exact ⟨by decide +kernel, by decide +kernel, h⟩

/-- A provider that asks for more than nine thousand years. -/
def ninetyCenturies : String := "429 retry-after: 300000000000"

/-- A wait is not kept to if it is too long: here a job is claimed a second after it was put off. -/
theorem long_wait_ignored :
    ¬ ∀ (before : List (Turn Unit)) (claim hear put again : Occurrence Unit) (k n draw : Nat)
      (p : Processor Unit) (task task' : Task) (message message' : String) (delay : Span),
      claim.before = World.empty.actAll before → claim.claimed? = some task.job →
      claim.LeftAloneUntil hear task.job.id → hear.Fails k n p task message draw →
      hear.LeftAloneUntil put task.job.id → put.Steps k n task' →
      task'.phase = .rescheduling message' delay → put.LeftAloneUntil again task.job.id →
      put.now.IsReading → again.now.IsReading →
      ∀ job, again.claimed? = some job → job.id = task.job.id →
        put.now.totalNanos + Processor.leastWait p.config task.job message draw ≤
          again.now.totalNanos := by
  intro h
  obtain ⟨p, hfails, hwait⟩ := refusedCall_fails ninetyCenturies 300000000000000000000 (by decide +kernel)
  have hput : (refusedWrite ninetyCenturies).Steps 0 0
      ⟨0, refusedJob, .rescheduling ninetyCenturies (Span.ofSeconds 300000000000)⟩ :=
    ⟨⟨0, rfl⟩, by decide +kernel⟩
  have hclaimed : ((refusedAgain ninetyCenturies 3).claimed?.map (·.id)) = some 1 := by decide +kernel
  obtain ⟨job, hjob, hid⟩ := Option.map_eq_some_iff.mp hclaimed
  have hwaits := h (refusing ninetyCenturies) (refusedClaim ninetyCenturies) (refusedCall ninetyCenturies)
    (refusedWrite ninetyCenturies) (refusedAgain ninetyCenturies 3) 0 0 0 p _ _ _ _ _ rfl (by decide)
    ⟨[refusedStep 1, refusedStep 1], rfl, by decide⟩ hfails ⟨[], rfl, by decide⟩ hput rfl
    ⟨[], rfl, by decide⟩ ⟨by decide, by decide⟩ ⟨by decide, by decide⟩ job hjob hid
  rw [hwait] at hwaits
  exact absurd hwaits (by decide)

end DurableJobs
