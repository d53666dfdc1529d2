import DurableJobs.Proofs.System.Failing

/-!
# Attempts are used up

Behind every run that leaves a job nothing but to fail, the job is in one of the places of `Failing`, and
it has been neither told nor recorded (`Unsuccessful`). So the calls of its handler are as many as its
greatest number of attempts, and one if that number is zero or less: the count is looked at only behind a
failure, and then for the first time.
-/

set_option autoImplicit false

namespace DurableJobs

open Store (Reply Row)

variable {σ : Type} {history : List (Occurrence σ)} {e : Occurrence σ} {id most : Int} {k n : Nat}
  {task : Task}

/-! ## What a turn keeps -/

/-- A job that has only failed so far: where it stands, and that nobody takes it for done. -/
structure Unsuccessful (id most : Int) (history : List (Occurrence σ)) (w : World σ) : Prop where
  ordered : w.tables.Ordered
  numbered : w.Numbered
  old : id ≤ w.tables.lastJobId
  owned : Owned w id
  unrecorded : w.tables.isRecorded id = false
  silent : ∀ k n task, w.task? k n = some task → task.job.id = id → task.phase ≠ .announcing
  untold : ∀ e ∈ history, ∀ k job, e.announced? = some (k, job) → job.id ≠ id
  failing : Failing id most history w (countOf (calledJobs history) id) (failuresOf history id)

namespace Occurrence

theorem OnlyFails.not_robs (h : e.OnlyFails id) : ¬ e.Robs id := by
  rintro ⟨⟨olderThan, hop⟩, hmoves, -⟩
  exact hmoves (row_of_reclaim hop h.stays).symm

/-- Where outcomes are left to the tasks, a job gets into the ledger by a task that records it. -/
theorem recorded_by (hturn : e.act.leavesOutcomes = true) (hafter : e.after.tables.isRecorded id = true) :
    e.before.tables.isRecorded id = true ∨
      ∃ k n task, e.Steps k n task ∧ task.job.id = id ∧ task.phase = .completing := by
  rcases e.tables_cases with ⟨-, hsame⟩ | ⟨operation, reply, hop, -, hchange⟩
  · rw [hsame] at hafter
    exact Or.inl hafter
  rcases hchange.ledger_grows hafter with hbefore | hrecords
  · exact Or.inl hbefore
  rcases e.asked hop with haction | ⟨k, n, task, hsteps, htask⟩ | hroutine
  · rw [Turn.leavesOutcomes, haction] at hturn
    rcases hrecords with rfl | rfl <;> cases hturn
  · refine Or.inr ⟨k, n, task, hsteps, ?_⟩
    unfold Task.operation? at htask
    split at htask <;> cases htask <;> rcases hrecords with hop' | hop' <;> cases hop'
    next hphase => exact ⟨rfl, hphase⟩
  · rcases hrecords with rfl | rfl <;> cases hroutine

end Occurrence

/-- A job that has only failed is not about to be recorded. -/
theorem Failing.not_completing {calls : Nat} {failures : List String}
    (h : Failing id most history e.before calls failures) (howned : Owned e.before id)
    (hfound : e.before.task? k n = some task) (hown : task.job.id = id) :
    task.phase ≠ .completing := by
  intro hphase
  obtain ⟨row, past, -, hattempt⟩ := h.attempt howned hfound hown (by rw [hphase]; rfl)
  rw [hphase] at hattempt
  cases hattempt with
  | ahead _ before => cases before

/-- **Every turn that does not interfere** leaves a job that has only failed one that has only failed. -/
theorem Unsuccessful.next (h : Unsuccessful id most history e.before) (hturn : e.OnlyFails id) :
    Unsuccessful id most (history ++ [e]) e.after where
  ordered := e.ordered h.ordered
  numbered := e.after_numbered h.numbered
  old := Int.le_trans h.old e.lastJobId_le
  owned := h.owned.next h.ordered (Turn.leavesVerdicts_of_outcomes hturn.outcomes) hturn.not_robs
  unrecorded := by
    rw [Bool.eq_false_iff]
    intro hafter
    rcases Occurrence.recorded_by hturn.outcomes hafter with hbefore | ⟨k, n, task, hsteps, hown, hphase⟩
    · rw [h.unrecorded] at hbefore
      cases hbefore
    · exact h.failing.not_completing h.owned hsteps.2 hown hphase
  silent k n task hafter hown hphase := by
    have hfate := e.taskFate k n
    rw [hafter] at hfate
    generalize hbefore : e.before.task? k n = before at hfate
    cases hfate with
    | kept | rested => exact h.silent k n task hbefore hown hphase
    | spawned => cases hphase
    | moved p old phase _ _ hleads =>
      dsimp only at hown hphase
      subst hphase
      generalize hwas : old.phase = was at hleads
      cases hleads with
      | recorded => exact h.failing.not_completing h.owned hbefore hown hwas
      | looked _ _ _ hnext => rcases hnext with hnext | hnext | hnext <;> cases hnext
  untold := by
    refine Run.forall_mem_snoc h.untold fun k job hannounced hid => ?_
    obtain ⟨n, task, hsteps, hphase, rfl⟩ := Occurrence.announced?_spec hannounced
    exact h.silent k n task hsteps.2 hid hphase
  failing := by
    rw [countOf_calledJobs_snoc, failuresOf_snoc]
    by_cases hholder : ∃ k n task, e.Steps k n task ∧ task.job.id = id ∧ task.phase.holds = true
    · obtain ⟨k, n, task, hsteps, hown, hholds⟩ := hholder
      rw [hsteps.called hown]
      exact h.failing.step h.owned h.unrecorded hturn hsteps hown hholds
    · have hpasses : e.Passes id := fun k n task hsteps hown => by
        rw [← Bool.not_eq_true]
        exact fun hholds => hholder ⟨k, n, task, hsteps, hown, hholds⟩
      rw [hpasses.called, hpasses.failure?, Option.toList_none, List.append_nil]
      exact h.failing.away h.owned h.ordered h.old h.numbered hturn hpasses

/-! ## Runs -/

/-- The ledger knows no job that has not been put in. -/
theorem ledger_run (turns : List (Turn σ)) (hturns : ∀ turn ∈ turns, turn.leavesOutcomes = true) (id : Int)
    (hrecorded : (World.empty.actAll turns).tables.isRecorded id = true) :
    id ≤ (World.empty.actAll turns).tables.lastJobId := by
  have hall : ToldApart (World.empty.occurrences turns) (World.empty.actAll turns) ∧
      ∀ id, (World.empty.actAll turns).tables.isRecorded id = true →
        id ≤ (World.empty.actAll turns).tables.lastJobId := by
    refine @Run.invariant _ _ World.act (fun turn => turn.leavesOutcomes = true)
      (fun history w => ToldApart history w ∧
        ∀ id, w.tables.isRecorded id = true → id ≤ w.tables.lastJobId) World.empty
      ⟨ToldApart.start, fun _ h => nomatch h⟩ ?_ turns hturns
    rintro history w turn hturn ⟨htold, hledger⟩
    refine ⟨ToldApart.next (e := ⟨w, turn⟩) htold, fun id hafter => ?_⟩
    refine Int.le_trans ?_ (Occurrence.lastJobId_le ⟨w, turn⟩)
    rcases Occurrence.recorded_by (e := ⟨w, turn⟩) hturn hafter with hbefore | ⟨k, n, task, hsteps, rfl, -⟩
    · exact hledger id hbefore
    · exact htold.handedOut task.job (htold.claimed k n task hsteps.2)
  exact hall.2 id hrecorded

/-- What is put in is pending and new: never tried, and under the id behind the last one. -/
theorem Occurrence.PutsIn.fresh (h : e.PutsIn id most) (ho : e.before.tables.Ordered) :
    id = e.before.tables.lastJobId + 1 ∧ ∃ job attempts, most = job.maxAttempts.getD attempts ∧
      e.after.tables.job? id = some (Row.fresh job attempts e.now id) := by
  obtain ⟨⟨created, hreply, rfl⟩, hasks⟩ := h
  have inserted : ∀ {job : NewJob} {attempts : Int},
      (Row.fresh job attempts e.now (e.before.tables.lastJobId + 1)).read? = some created →
      (e.before.tables.insertJob (Row.fresh job attempts e.now)).2.job? created.id =
        some (Row.fresh job attempts e.now created.id) := fun {job attempts} hread => by
    have hid : created.id = e.before.tables.lastJobId + 1 := (Row.read?_spec hread).1
    rw [Store.inserted_row ho hread, hid]
  rcases hasks with ⟨job, attempts, hop, rfl⟩ | ⟨letterId, hop⟩
  · have hchange := e.change hop hreply
    generalize hanswer : Except.ok (Reply.job created) = answer at hchange
    generalize e.after.tables = after at hchange ⊢
    cases hchange with
    | failed => cases hanswer
    | looked _ _ hlooks => cases hlooks
    | enqueued =>
      cases hread : (Row.fresh job attempts e.now (e.before.tables.lastJobId + 1)).answer with
      | error =>
        rw [hread] at hanswer
        cases hanswer
      | ok answered =>
        rw [hread] at hanswer
        cases hanswer
        exact ⟨(Row.read?_spec (Row.answer_eq_ok.mp hread)).1, job, attempts, rfl,
          inserted (Row.answer_eq_ok.mp hread)⟩
  · have hchange := e.change hop hreply
    generalize hanswer : Except.ok (Reply.job created) = answer at hchange
    generalize e.after.tables = after at hchange ⊢
    cases hchange with
    | failed => cases hanswer
    | looked _ _ hlooks => cases hlooks
    | restored _ _ letter read _ hread =>
      cases hanswer
      exact ⟨(Row.read?_spec hread).1, Store.jobOfLetter letter, most, rfl, inserted hread⟩

/-- A job that has just been put in has not failed yet. -/
theorem Unsuccessful.start {before : List (Turn σ)} (hstart : e.before = World.empty.actAll before)
    (houtcomes : ∀ turn ∈ before, turn.leavesOutcomes = true) (h : e.PutsIn id most) :
    Unsuccessful id most [] e.after := by
  have htold : ToldApart (World.empty.occurrences before) e.before := hstart ▸ ToldApart.run before
  obtain ⟨hid, job, attempts, hlimit, hrow⟩ := h.fresh htold.ordered
  -- it is neither a claim nor a record
  have hop : e.operation? ≠ some .claimNext ∧ e.operation? ≠ some (.recordProcessed id) ∧
      e.operation? ≠ some (.completeProcessed id) := by
    rcases h.asks with ⟨job, attempts, hop, -⟩ | ⟨letterId, hop⟩ <;> rw [hop] <;> simp
  have hnobody : ∀ k n task, e.after.task? k n = some task → task.job.id ≠ id := by
    intro k n task hafter hown
    rcases ToldApart.task_before hafter with ⟨old, hbefore, hsame⟩ | ⟨hclaimed, -⟩
    · have hhanded := htold.handedOut _ (htold.claimed k n old hbefore)
      rw [hsame, hown] at hhanded
      omega
    · unfold Occurrence.claimed? at hclaimed
      split at hclaimed
      · next hclaims _ => exact hop.1 hclaims
      · cases hclaimed
  have hfree : ∀ k n, ¬ e.after.Holds k n id := by
    rintro k n ⟨task, hafter, -, hown⟩
    exact hnobody k n task hafter hown
  have hordered := e.ordered htold.ordered
  obtain ⟨hlive, hsame⟩ := Store.Tables.mem_of_job? hrow
  refine
    { ordered := hordered
      numbered := e.after_numbered (hstart ▸ (checked_run before).numbered)
      old := hordered.handedOut _ hlive
      owned := ⟨fun k n hheld => absurd hheld (hfree k n), fun k n _ _ hheld _ => absurd hheld (hfree k n)⟩
      unrecorded := ?_
      silent := fun k n task hafter hown => absurd hown (hnobody k n task hafter)
      untold := fun _ hc => (List.not_mem_nil hc).elim
      failing := .waiting _ [] hrow (beq_self_eq_true _) hlimit.symm rfl rfl
        (Nat.lt_of_lt_of_le Nat.zero_lt_one (Nat.le_max_left ..)) hfree }
  have hunknown : ¬ e.before.tables.isRecorded id = true := fun hrecorded => by
    rw [hstart] at hrecorded
    have hhanded := ledger_run before houtcomes id hrecorded
    rw [← hstart] at hhanded
    omega
  rw [Bool.eq_false_iff]
  intro hafter
  rcases e.tables_cases with ⟨-, htables⟩ | ⟨operation, reply, hasked, -, hchange⟩
  · exact hunknown (htables ▸ hafter)
  · rcases hchange.ledger_grows hafter with hbefore | rfl | rfl
    · exact hunknown hbefore
    · exact hop.2.1 hasked
    · exact hop.2.2 hasked

theorem unsuccessful_run {put : Occurrence σ} (h : Unsuccessful id most [] put.after)
    (later : List (Turn σ)) (hlater : ∀ e ∈ put.after.occurrences later, e.OnlyFails id) :
    Unsuccessful id most (put.after.occurrences later) (put.after.actAll later) := by
  refine @Run.invariant_of_past _ _ World.act (fun _ e => Occurrence.OnlyFails e id)
    (Unsuccessful id most) put.after h
    (fun _ w turn hturn h => Unsuccessful.next (e := ⟨w, turn⟩) h hturn) later
    fun earlier e rest hsplit => hlater e ?_
  rw [World.occurrences, hsplit]
  exact List.mem_append_right _ List.mem_cons_self

namespace Failing

variable {w : World σ} {calls : Nat} {failures : List String}

theorem calls_le (h : Failing id most history w calls failures) : calls ≤ max 1 most.toNat := by
  cases h with
  | waiting _ _ _ _ _ _ _ few => exact Nat.le_of_lt few
  | working _ _ _ _ _ _ _ _ trying attempt => exact Nat.le_trans attempt.calls_le trying.few
  | dropped _ _ _ _ _ within => exact within
  | archived _ _ _ all => exact Nat.le_of_eq all

theorem at_work (h : Failing id most history w calls failures)
    (hprocessing : w.tables.standing id = some Status.processing.name) :
    (∃ k n, w.Holds k n id) ∨ ∃ e ∈ history, e.Drops id := by
  cases h with
  | waiting row _ there pending =>
    rw [Store.Tables.standing, there] at hprocessing
    cases Store.hasStatus_of_status (Option.some.inj hprocessing) pending
  | working k n task _ _ _ _ found trying attempt =>
    exact Or.inl ⟨k, n, task, found, attempt.holds, trying.own⟩
  | dropped _ _ _ _ drop => exact Or.inr drop
  | archived _ gone =>
    rw [Store.Tables.standing, gone] at hprocessing
    cases hprocessing

theorem settled (h : Failing id most history w calls failures) (howned : Owned w id)
    (hstands : w.tables.standing id ≠ some Status.processing.name) :
    failures.length = calls ∧
      (calls < max 1 most.toNat ∧ (∃ row, w.tables.job? id = some row ∧ row.hasStatus .pending = true ∧
          row.attemptCount = calls ∧ row.lastError = failures.getLast?) ∨
        calls = max 1 most.toNat ∧ w.tables.job? id = none ∧ ∃ e ∈ history, e.Shelves id failures) := by
  cases h with
  | waiting row _ there pending _ count told few =>
    exact ⟨rfl, Or.inl ⟨few, row, there, pending, count, told⟩⟩
  | working k n task _ _ _ _ found trying attempt =>
    exact absurd (howned.processing k n ⟨task, found, attempt.holds, trying.own⟩) hstands
  | dropped _ _ processing => exact absurd processing hstands
  | archived _ gone filed all => exact ⟨rfl, Or.inr ⟨all, gone, filed⟩⟩

end Failing

/-- **A job that always fails.** A job is put in that may be tried `most` times, in any run in which outcomes
are left to the tasks, and from then on nothing happens to it but that its handler fails. Whatever number
`most` is, and whatever else happens in between:

* its handler is called no more than `max 1 most` times;
* it is in processing only while a task holds it or after it has been dropped;
* otherwise all its calls have failed. As long as there are fewer than `max 1 most` of them the job is
  pending, its row has counted them, and it shows the message of the last one. As soon as there are so many
  its row is gone, and in the turn that took it out a dead letter was put in with that count and message;
* it is never told that the job is done, and the job is not in the ledger. -/
theorem failing_job_runs_out (before later : List (Turn σ)) (put : Occurrence σ) {id most : Int}
    (hstart : put.before = World.empty.actAll before)
    (houtcomes : ∀ turn ∈ before, turn.leavesOutcomes = true) (hput : put.PutsIn id most)
    (hlater : ∀ e ∈ put.after.occurrences later, e.OnlyFails id) :
    let history := put.after.occurrences later
    let w := put.after.actAll later
    let calls := countOf (calledJobs history) id
    let failures := failuresOf history id
    calls ≤ max 1 most.toNat ∧
    (w.tables.standing id = some Status.processing.name →
      (∃ k n, w.Holds k n id) ∨ ∃ e ∈ history, e.Drops id) ∧
    (w.tables.standing id ≠ some Status.processing.name →
      failures.length = calls ∧
      (calls < max 1 most.toNat ∧ (∃ row, w.tables.job? id = some row ∧ row.hasStatus .pending = true ∧
          row.attemptCount = calls ∧ row.lastError = failures.getLast?) ∨
        calls = max 1 most.toNat ∧ w.tables.job? id = none ∧ ∃ e ∈ history, e.Shelves id failures)) ∧
    (∀ e ∈ history, ∀ k job, e.announced? = some (k, job) → job.id ≠ id) ∧
    w.tables.isRecorded id = false := by
  intro history w calls failures
  have h : Unsuccessful id most history w :=
    unsuccessful_run (Unsuccessful.start hstart houtcomes hput) later hlater
  exact ⟨h.failing.calls_le, h.failing.at_work, h.failing.settled h.owned, h.untold, h.unrecorded⟩

/-- A processor whose handler fails with a message at first and panics from then on. -/
def Action.launchFailing : Action Nat :=
  .launch ProcessorConfig.standard (Registry.empty.register "a"
    (.immediate fun _ _ calls => (if calls = 0 then .failed (.other ["busy"]) else .panicked, calls + 1)))
    .standard 0

/-- Somebody enqueues a job that may be tried twice. -/
def twoTries : Occurrence Nat :=
  World.empty.next [.quiet 0 .launchFailing]
    (.quiet 0 (.ask (.enqueue ⟨"a", [], none, none, some 2, none⟩ Store.standardMaxAttempts)))

/-- The job is claimed, put off, claimed again, and archived. -/
def twiceFailed : List (Turn Nat) :=
  [.quiet 1 (.act 0 .claim),
   .quiet 1 (.act 0 (.step 0 0)), .quiet 1 (.act 0 (.step 0 0)), .quiet 1 (.act 0 (.step 0 0)),
   .quiet 1 (.act 0 (.step 0 0)),
   .quiet 9 (.act 0 .claim),
   .quiet 9 (.act 0 (.step 0 0)),
   .quiet 9 (.act 0 (.step 1 0)), .quiet 9 (.act 0 (.step 1 0)), .quiet 9 (.act 0 (.step 1 0)),
   .quiet 9 (.act 0 (.step 1 0))]

theorem failing_job_runs_out_afterTwo :
    countOf (calledJobs (twoTries.after.occurrences twiceFailed)) 1 = 2 ∧
    (twoTries.after.actAll twiceFailed).tables.job? 1 = none ∧
    (∃ e ∈ twoTries.after.occurrences twiceFailed,
      e.Shelves 1 ["busy", "job handler panicked"]) ∧
    (twoTries.after.actAll twiceFailed).tables.isRecorded 1 = false := by
  have hput : twoTries.PutsIn 1 2 := ⟨⟨_, rfl, rfl⟩, Or.inl ⟨_, _, rfl, rfl⟩⟩
  -- what can be seen of each turn
  have hturns : ∀ e ∈ twoTries.after.occurrences twiceFailed,
      e.act.leavesOutcomes = true ∧ e.operation? ≠ some (.cancel 1) ∧ e.takesBack 1 = false ∧
        e.reply?.all (·.isOk) = true ∧ e.result?.all (fun r => decide (r.outcome ≠ .done)) = true ∧
        e.before.processors.all (fun p => p.tasks.all fun task =>
          decide (e.now.since task.job.createdAt ≤ p.config.deadLetters.staleAfter)) = true := by
    decide +kernel
  have hlater : ∀ e ∈ twoTries.after.occurrences twiceFailed, e.OnlyFails 1 := by
    intro e he
    obtain ⟨houtcomes, hkept, hstays, hanswered, hfails, hyoung⟩ := hturns e he
    have hserved : ∀ error, e.reply? ≠ some (.error error) := by
      intro error hreply
      rw [hreply] at hanswered
      cases hanswered
    refine ⟨houtcomes, hkept, hstays, fun _ => hserved, fun _ _ _ _ _ => hserved, fun r hr _ => ?_,
      fun k n task p hsteps hp _ _ => ?_⟩
    · rw [hr] at hfails
      exact of_decide_eq_true hfails
    · have htask : p.task? n = some task := (World.task?_of_processor hp n).symm.trans hsteps.2
      have hall := List.all_eq_true.mp hyoung p (List.mem_of_getElem? hp)
      exact of_decide_eq_true (List.all_eq_true.mp hall task (List.mem_of_find?_eq_some htask))
  have hmessages : failuresOf (twoTries.after.occurrences twiceFailed) 1 =
      ["busy", "job handler panicked"] := by decide +kernel
  have hcalls : countOf (calledJobs (twoTries.after.occurrences twiceFailed)) 1 = 2 := by decide +kernel
  obtain ⟨-, -, hsettled, -, hunrecorded⟩ :=
    failing_job_runs_out [.quiet 0 .launchFailing] twiceFailed twoTries rfl (by decide) hput hlater
  obtain ⟨-, ⟨hfew, -⟩ | ⟨-, hgone, hshelved⟩⟩ := hsettled (by decide +kernel)
  · rw [hcalls] at hfew
    exact absurd hfew (by decide)
  · exact ⟨hcalls, hgone, hmessages ▸ hshelved, hunrecorded⟩

end DurableJobs
