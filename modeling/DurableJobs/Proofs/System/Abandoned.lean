import DurableJobs.Proofs.Store.Stuck
import DurableJobs.Proofs.System.Claims
import DurableJobs.Proofs.System.Exchanges
import DurableJobs.Proofs.Time.Age

/-!
# Jobs abandoned at admission

A processor that is cancelled turns away the tasks that wait at its gate. Their jobs have been claimed and
stay in processing, and it is left to the reaper to take them back. The reaper knows nothing of that: it
goes by age, and tells an abandoned job from one at work only by how long ago it was claimed.

`abandoned_jobs_taken_back` says what a pass does to an abandoned job, whenever it runs: a claim that is
old enough is undone, and a younger one stands until a later pass. `young_job_left_in_processing` is a run
in which the first pass after the end of the processor comes too soon.
-/

set_option autoImplicit false

namespace DurableJobs

open Store (Row Reply)

variable {σ : Type}

namespace Occurrence

/-- A task of a processor is turned away at admission, and leaves its job as it was claimed. -/
def Abandons (e : Occurrence σ) (k : Nat) (job : Job) : Prop :=
  ∃ n task, e.Steps k n task ∧ (task.phase = .asking ∨ task.phase = .queued) ∧
    e.after.task? k n = none ∧ task.job = job

/-- A claim that has left a row as it is. -/
structure Left (claim : Occurrence σ) (row : Row) : Prop where
  claims : claim.operation? = some .claimNext
  other : claim.before.tables.job? row.id ≠ some row
  same : claim.after.tables.job? row.id = some row
  clock : row.updatedAt = claim.now

end Occurrence

/-- The processor has abandoned the job. -/
def Abandoned (history : List (Occurrence σ)) (k : Nat) (job : Job) : Prop :=
  ∃ e ∈ history, e.Abandons k job

/-- The processor has been cancelled, and none of its tasks is left. -/
def World.Stopped (w : World σ) (k : Nat) : Prop :=
  ∃ p, w.processors[k]? = some p ∧ p.cancelled = true ∧ p.tasks = []

/-! ## What is in processing -/

/-- A row in processing is as a claim has left it. -/
theorem left_of_processing (turns : List (Turn σ)) {id : Int} {row : Row}
    (hrow : (World.empty.actAll turns).tables.job? id = some row)
    (hprocessing : row.hasStatus .processing = true) :
    ∃ claim ∈ World.empty.occurrences turns, claim.Left row := by
  obtain ⟨requests, hhistory, htables⟩ := store_run World.empty turns
  have hheld : Store.Held ((World.empty : World σ).tables.exchanges requests)
      ((World.empty : World σ).tables.afterAll requests) := Store.held_run requests
  rw [hhistory, htables] at hheld
  obtain ⟨x, hx, hclaims, hafter, hclock⟩ := hheld.claimed id row hrow hprocessing
  obtain ⟨claim, hclaim, hop, hbefore, hnow, hsame⟩ := mem_exchanges hx
  obtain ⟨hnext, hchanges⟩ := Bool.and_eq_true_iff.mp hclaims
  obtain rfl : row.id = id := (Store.Tables.mem_of_job? hrow).2
  refine ⟨claim, hclaim, hop.trans (congrArg some (beq_iff_eq.mp hnext)), fun heq => ?_, hsame ▸ hafter,
    hclock.trans hnow⟩
  rw [Store.Exchange.changes, hbefore, heq, hafter] at hchanges
  simp at hchanges

/-- What has been abandoned has been claimed before. -/
theorem Abandoned.claimed {turns : List (Turn σ)} {k : Nat} {job : Job}
    (h : Abandoned (World.empty.occurrences turns) k job) :
    job ∈ claimedJobs (World.empty.occurrences turns) := by
  obtain ⟨e, he, n, task, hsteps, -, -, rfl⟩ := h
  obtain ⟨earlier, later, hsplit⟩ := List.append_of_mem he
  obtain ⟨before, after, -, rfl, hbefore, -⟩ := Run.history_split hsplit
  have htask := hsteps.2
  rw [hbefore] at htask
  rw [hsplit, claimedJobs, List.filterMap_append]
  exact List.mem_append_left _ ((ToldApart.run before).claimed k n task htask)

/-! ## What a pass does -/

/-- **A pass over abandoned jobs.** When the store carries out a pass of the reaper, at whatever time, an
abandoned job that is no longer in processing is left as it is. One that is has been left by its last
claim, the abandoned one or a later one, and is taken back if that lies before the threshold of the pass;
otherwise it stays as it is. So what is in processing behind the pass has been claimed within the age of
the pass. -/
theorem abandoned_jobs_taken_back (turns : List (Turn σ)) (pass : Turn σ) {timeout : Span} {reply : Reply}
    (hasks : (World.empty.next turns pass).operation? = some (.reclaimStuck (Reaper.age timeout)))
    (hanswers : (World.empty.next turns pass).reply? = some (.ok reply)) :
    let e := World.empty.next turns pass
    ∃ threshold, e.now.addNanos? (-Reaper.age timeout) = some threshold ∧
      (∀ t : Instant, t.FourDigits → e.now.FourDigits → (Store.storedBefore t threshold = true ↔
        t.totalNanos + Reaper.age timeout < e.now.totalNanos)) ∧
      ∀ k job, Abandoned (World.empty.occurrences turns) k job →
        (∀ row, e.before.tables.job? job.id = some row →
          job.attemptCount ≤ row.attemptCount ∧
          (row.hasStatus .processing = false → e.after.tables.job? job.id = some row) ∧
          (row.hasStatus .processing = true → ∃ claim ∈ World.empty.occurrences turns, claim.Left row ∧
            e.after.tables.job? job.id =
              some (if Store.storedBefore claim.now threshold then row.reclaimed e.now else row))) ∧
        ∀ row, e.after.tables.job? job.id = some row → row.hasStatus .processing = true →
          e.before.tables.job? job.id = some row ∧
          ∃ claim ∈ World.empty.occurrences turns, claim.Left row ∧
            Store.storedBefore claim.now threshold = false := by
  intro e
  have htold : ToldApart (World.empty.occurrences turns) e.before := .run turns
  obtain ⟨threshold, hage, hafter⟩ := (Occurrence.change hasks hanswers).passed
  have hpassed : ∀ id, e.after.tables.job? id =
      (e.before.tables.job? id).map (·.passed threshold e.now) := hafter
  refine ⟨threshold, hage, fun t ht hnow =>
    Store.storedBefore_ago_iff ht hnow (Reaper.age_nonneg timeout) hage, fun k job habandoned =>
    ⟨fun row hrow => ⟨(htold.fenced job habandoned.claimed row hrow).1, fun hother => ?_,
      fun hprocessing => ?_⟩, fun row hrow hprocessing => ?_⟩⟩
  · rw [hpassed, hrow, Option.map_some, Row.passed_of_other hother]
  · obtain ⟨claim, hclaim, hleft⟩ := left_of_processing turns hrow hprocessing
    refine ⟨claim, hclaim, hleft, ?_⟩
    rw [hpassed, hrow, Option.map_some, Row.passed_of_processing hprocessing, hleft.clock]
  · rw [hpassed] at hrow
    obtain ⟨row, hbefore, rfl⟩ := Option.map_eq_some_iff.mp hrow
    obtain ⟨hsame, hyoung⟩ := Row.passed_processing hprocessing
    rw [hsame] at hprocessing ⊢
    obtain ⟨claim, hclaim, hleft⟩ := left_of_processing turns hbefore hprocessing
    exact ⟨hbefore, claim, hclaim, hleft, hleft.clock ▸ hyoung⟩

/-- A processor works on one of two jobs, and the other waits at the gate until the processor is cancelled.
When the first job is done nothing is left to do, and another processor is there. -/
def cancelledInQueue : List (Turn Bool) :=
  [.quiet 0 .launchBehindDoor, .quiet 0 (.enqueue "a"), .quiet 0 (.enqueue "a"),
   .quiet 1 (.act 0 .claim), .quiet 1 (.act 0 .claim),
   .quiet 1 (.act 0 (.step 0 0)), .quiet 1 (.act 0 (.step 1 0)),
   .quiet 1 (.act 0 (.step 0 0)), .quiet 1 (.act 0 (.step 1 0)), .quiet 1 (.act 0 (.step 0 0)),
   .quiet 2 (.act 0 .cancel),
   .quiet 2 (.act 0 (.step 1 0)),
   .quiet 2 (.act 0 (.disturb true)),
   .quiet 2 (.act 0 (.step 0 0)), .quiet 2 (.act 0 (.step 0 0)), .quiet 2 (.act 0 (.step 0 0)),
   .quiet 2 (.act 0 (.step 0 0)),
   .quiet 2 .launchBehindDoor]

/-- A pass of the other processor, with the age that is the standard. -/
def standardPass (second : Nat) : Turn Bool := .quiet second (.act 1 (.rescue (Span.ofSeconds 300)))

def queuedJob : Job :=
  { id := 2, tenantId := none, jobType := "a", payload := [], status := .processing,
    idempotencyKey := none, attemptCount := 1, maxAttempts := 5, lastError := none,
    runAt := Store.wholeSecond 0, startedAt := some (Store.wholeSecond 1), completedAt := none,
    createdAt := Store.wholeSecond 0, updatedAt := Store.wholeSecond 1 }

/-- The twelfth turn turns the second job away, and all is over behind the last. -/
theorem cancelledInQueue_over :
    (World.empty.actAll cancelledInQueue).Stopped 0 ∧
      Abandoned (World.empty.occurrences cancelledInQueue) 0 queuedJob := by
  refine ⟨⟨_, rfl, by decide +kernel, by decide +kernel⟩,
    World.empty.next (cancelledInQueue.take 11) (.quiet 2 (.act 0 (.step 1 0))),
    List.mem_of_getElem? (i := 11) rfl, 1, ⟨1, queuedJob, .queued⟩, ?_, Or.inr rfl,
    by decide +kernel, rfl⟩
  exact ⟨⟨0, rfl⟩, by decide +kernel⟩

/-- Its row, as its claim has left it. -/
def queuedRow : Row :=
  { id := 2, tenantId := none, jobType := "a", payload := [], status := Status.processing.name,
    idempotencyKey := none, attemptCount := 1, maxAttempts := 5, lastError := none,
    runAt := Store.wholeSecond 0, startedAt := some (Store.wholeSecond 1), completedAt := none,
    createdAt := Store.wholeSecond 0, updatedAt := Store.wholeSecond 1 }

theorem abandoned_jobs_taken_back_late :
    (World.empty.actAll cancelledInQueue).Stopped 0 ∧
      Abandoned (World.empty.occurrences cancelledInQueue) 0 queuedJob ∧
      (World.empty.actAll cancelledInQueue).tables.job? 2 = some queuedRow ∧
      (World.empty.next cancelledInQueue (standardPass 302)).reply? = some (.ok (.count 1)) ∧
      (World.empty.next cancelledInQueue (standardPass 302)).after.tables.job? 2 =
        some (queuedRow.reclaimed (Store.wholeSecond 302)) := by
  have hrow : (World.empty.actAll cancelledInQueue).tables.job? 2 = some queuedRow := by
    decide +kernel
  have hasks : (World.empty.next cancelledInQueue (standardPass 302)).operation? =
      some (.reclaimStuck (Reaper.age (Span.ofSeconds 300))) := by decide +kernel
  have hanswers : (World.empty.next cancelledInQueue (standardPass 302)).reply? =
      some (.ok (.count 1)) := by decide +kernel
  obtain ⟨hstopped, habandoned⟩ := cancelledInQueue_over
  obtain ⟨threshold, hthreshold, -, htaken⟩ :=
    abandoned_jobs_taken_back cancelledInQueue (standardPass 302) hasks hanswers
  have hback : (Store.wholeSecond 302).addNanos? (-Reaper.age (Span.ofSeconds 300)) =
      some (Store.wholeSecond 2) := by decide +kernel
  cases hback.symm.trans hthreshold
  obtain ⟨claim, -, hleft, hafter⟩ :=
    ((htaken 0 queuedJob habandoned).1 queuedRow hrow).2.2 (by decide)
  rw [← hleft.clock, if_pos (by decide +kernel)] at hafter
  exact ⟨hstopped, habandoned, hrow, hanswers, hafter⟩

/-- A pass does not take back what has been abandoned a moment ago: the first one after the end of the
processor leaves the job in processing. -/
theorem young_job_left_in_processing :
    ¬ ∀ (turns : List (Turn Bool)) (pass : Turn Bool) (timeout : Span) (reply : Reply) (k : Nat) (job : Job),
      (World.empty.actAll turns).Stopped k → Abandoned (World.empty.occurrences turns) k job →
      (World.empty.next turns pass).operation? = some (.reclaimStuck (Reaper.age timeout)) →
      (World.empty.next turns pass).reply? = some (.ok reply) →
      ∀ row, (World.empty.next turns pass).after.tables.job? job.id = some row →
        row.hasStatus .processing = false := by
  intro h
  obtain ⟨hstopped, habandoned⟩ := cancelledInQueue_over
  have hother := h cancelledInQueue (standardPass 3) (Span.ofSeconds 300) (.count 0) 0 queuedJob hstopped
    habandoned (by decide +kernel) (by decide +kernel) queuedRow (by decide +kernel)
  exact absurd hother (by decide)

end DurableJobs
