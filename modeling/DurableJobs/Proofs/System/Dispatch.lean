import DurableJobs.Proofs.System.Tasks

/-!
# Dispatch and the ledger

A task looks into the ledger once, before it asks for admission, and calls the handler whenever
admission comes. What it has seen may be old by then: while it waits, a reaper can take its row back, a
second task can do the work and record it, and the first one will do the work again. That is the only
way: a task that calls a handler for a recorded job has looked before the entry was there, or could not
look at all (`looked_before_dispatch`).
-/

set_option autoImplicit false

namespace DurableJobs

variable {σ : Type}

/-- All processors keep to the numbers they have given out. -/
def World.Numbered (w : World σ) : Prop :=
  ∀ (k : Nat) (p : Processor σ), w.processors[k]? = some p → p.Numbered

/-- The task has looked into the ledger and has not called its handler. -/
def Phase.waits : Phase → Bool
  | .asking | .queued | .admitted => true
  | _ => false

namespace Occurrence

/-- The turn is a task's call of its handler. -/
def Dispatches (e : Occurrence σ) (k n : Nat) (task : Task) : Prop :=
  e.Steps k n task ∧ task.phase = .admitted

/-- The turn is a task's look into the ledger. -/
def Looks (e : Occurrence σ) (k n : Nat) (job : Job) : Prop := e.Steps k n ⟨n, job, .checking⟩

/-- The ledger holds no entry for the job, or cannot be read. -/
def Misses (e : Occurrence σ) (job : Job) : Prop :=
  e.before.tables.isRecorded job.id = false ∨ ∃ error, e.reply? = some (.error error)

variable {e : Occurrence σ}

/-- A look that does not find the entry is a miss. -/
theorem misses_of_look {k n : Nat} {task : Task} (hsteps : e.Steps k n task)
    (hphase : task.phase = .checking)
    (hreply : e.reply? = some (.ok (.flag false)) ∨ ∃ error, e.reply? = some (.error error)) :
    e.Misses task.job :=
  hreply.imp_left (look_spec hsteps hphase)

/-- A processor stays in its place, and keeps the numbers it has given out. -/
theorem after_processor {k : Nat} {p : Processor σ} (hp : e.before.processors[k]? = some p) :
    ∃ q, e.after.processors[k]? = some q ∧ p.nextTask ≤ q.nextTask := by
  unfold Occurrence.after World.act
  split
  · exact ⟨p, hp, Nat.le_refl _⟩
  · obtain ⟨hk, -⟩ := List.getElem?_eq_some_iff.mp hp
    refine ⟨p, ?_, Nat.le_refl _⟩
    rw [List.getElem?_append_left hk]
    exact hp
  · next j deed _ =>
    cases hj : e.before.processors[j]? with
    | none => exact ⟨p, hp, Nat.le_refl _⟩
    | some actor =>
      by_cases hkj : j = k
      · subst hkj
        rw [hp] at hj
        cases hj
        obtain ⟨hlt, -⟩ := List.getElem?_eq_some_iff.mp hp
        exact ⟨_, List.getElem?_set_self hlt, (p.act_numbered deed _ _).1⟩
      · refine ⟨p, ?_, Nat.le_refl _⟩
        rw [← hp]
        exact List.getElem?_set_ne hkj

theorem after_numbered (h : e.before.Numbered) : e.after.Numbered := by
  intro k p hp
  unfold Occurrence.after World.act at hp
  split at hp
  · exact h k p hp
  · rcases List.mem_append.mp (List.mem_of_getElem? hp) with hold | hnew
    · obtain ⟨j, hj⟩ := List.getElem?_of_mem hold
      exact h j p hj
    · rw [List.mem_singleton.mp hnew]
      exact fun n hn => by cases hn
  · next j deed _ =>
    cases hj : e.before.processors[j]? with
    | none =>
      rw [hj] at hp
      exact h k p hp
    | some actor =>
      rw [hj] at hp
      dsimp only at hp
      rw [List.getElem?_set] at hp
      split at hp
      · split at hp
        · cases hp
          exact (actor.act_numbered deed _ _).2 (h j actor hj)
        · cases hp
      · exact h k p hp

end Occurrence

/-! ## What a waiting task has seen -/

/-- A task has looked into the ledger, and did not find its job however often it looked. -/
def Looked (history : List (Occurrence σ)) (k n : Nat) (job : Job) : Prop :=
  (∃ c ∈ history, c.Looks k n job ∧ c.Misses job) ∧
    ∀ c ∈ history, c.Looks k n job → c.Misses job

/-- Every task looks first and waits later. Numbers of tasks are never given out twice, so the looks
under a number are the looks of one task. -/
structure Checked (history : List (Occurrence σ)) (w : World σ) : Prop where
  numbered : w.Numbered
  past : ∀ c ∈ history, ∀ k n task, c.Steps k n task →
    ∃ p, w.processors[k]? = some p ∧ n < p.nextTask
  fresh : ∀ k n task, w.task? k n = some task → task.phase = .checking →
    ∀ c ∈ history, ∀ before, ¬ c.Steps k n before
  looked : ∀ k n task, w.task? k n = some task → task.phase.waits = true → Looked history k n task.job

theorem Checked.start : Checked [] (World.empty : World σ) where
  numbered _ _ h := nomatch h
  past _ h := nomatch h
  fresh _ _ _ h := nomatch h
  looked _ _ _ h := nomatch h

namespace Checked

variable {history : List (Occurrence σ)} {e : Occurrence σ}

theorem past_next (h : Checked history e.before) :
    ∀ c ∈ history ++ [e], ∀ k n task, c.Steps k n task →
      ∃ p, e.after.processors[k]? = some p ∧ n < p.nextTask := by
  have later : ∀ (k n : Nat) (p : Processor σ), e.before.processors[k]? = some p → n < p.nextTask →
      ∃ q, e.after.processors[k]? = some q ∧ n < q.nextTask := by
    intro k n p hp hn
    obtain ⟨q, hq, hle⟩ := Occurrence.after_processor hp
    exact ⟨q, hq, Nat.lt_of_lt_of_le hn hle⟩
  refine Run.forall_mem_snoc (fun c hc k n task hsteps => ?_) fun k n task hsteps => ?_
  · obtain ⟨p, hp, hn⟩ := h.past c hc k n task hsteps
    exact later k n p hp hn
  · obtain ⟨p, hp, htask⟩ := Option.bind_eq_some_iff.mp hsteps.2
    exact later k n p hp (h.numbered k p hp n (by rw [htask]; rfl))

theorem fresh_next (h : Checked history e.before) {k n : Nat} {task : Task}
    (hafter : e.after.task? k n = some task) (hphase : task.phase = .checking) :
    ∀ c ∈ history ++ [e], ∀ before, ¬ c.Steps k n before := by
  have hfate := e.taskFate k n
  rw [hafter] at hfate
  generalize hbefore : e.before.task? k n = task? at hfate
  cases hfate with
  | kept _ away => exact Run.forall_mem_snoc (h.fresh k n task hbefore hphase) away
  | spawned p job haction hp hnew =>
    -- the number is new, and whoever has stepped before had an old one
    refine Run.forall_mem_snoc (fun c hc before hsteps => ?_)
      (Occurrence.not_steps_of_action haction fun _ h => by cases h)
    obtain ⟨q, hq, hn⟩ := h.past c hc k n before hsteps
    rw [hp] at hq
    cases hq
    omega
  | rested _ _ hrests =>
    rw [Task.operation?, hphase] at hrests
    cases hrests
  | moved p task phase _ _ hleads =>
    dsimp only at hphase
    subst hphase
    generalize task.phase = phase at hleads
    cases hleads with
    | looked _ _ _ hnext => rcases hnext with hnext | hnext | hnext <;> cases hnext

theorem looked_next (h : Checked history e.before) {k n : Nat} {task : Task}
    (hafter : e.after.task? k n = some task) (hwaits : task.phase.waits = true) :
    Looked (history ++ [e]) k n task.job := by
  -- a turn that is no look of this task leaves what the task has seen as it was
  have same : ∀ old, e.before.task? k n = some old → old.phase.waits = true →
      Looked (history ++ [e]) k n old.job := by
    intro old hold hphase
    obtain ⟨⟨c, hc, hlook⟩, hall⟩ := h.looked k n old hold hphase
    refine ⟨⟨c, List.mem_append_left _ hc, hlook⟩, Run.forall_mem_snoc hall fun hlooks => ?_⟩
    rw [Option.some.inj (hold.symm.trans hlooks.2)] at hphase
    cases hphase
  have hfate := e.taskFate k n
  rw [hafter] at hfate
  generalize hbefore : e.before.task? k n = task? at hfate
  cases hfate with
  | kept => exact same task hbefore hwaits
  | spawned => cases hwaits
  | rested => exact same task hbefore hwaits
  | moved p old phase hsteps hp hleads =>
    dsimp only at hwaits
    generalize hphase : old.phase = before at hleads
    cases hleads with
    | missed hreply =>
      have hmisses := Occurrence.misses_of_look hsteps hphase hreply
      have hnumber : old.number = n :=
        Processor.number_of_task? ((World.task?_of_processor hp n).symm.trans hbefore)
      have hlooks : e.Looks k n old.job := by
        rw [Occurrence.Looks, ← hphase, ← hnumber]
        rwa [← hnumber] at hsteps
      refine ⟨⟨e, by simp, hlooks, hmisses⟩,
        Run.forall_mem_snoc (fun c hc hother => ?_) fun _ => hmisses⟩
      exact absurd hother (h.fresh k n old hbefore hphase c hc _)
    | looked _ _ hwaited =>
      refine same old hbefore ?_
      rcases hwaited with rfl | rfl <;> rw [hphase] <;> rfl
    | _ => cases hwaits

theorem next (h : Checked history e.before) : Checked (history ++ [e]) e.after where
  numbered := Occurrence.after_numbered h.numbered
  past := h.past_next
  fresh _ _ _ := h.fresh_next
  looked _ _ _ := h.looked_next

end Checked

theorem checked_run (turns : List (Turn σ)) :
    Checked (World.empty.occurrences turns) (World.empty.actAll turns) :=
  Run.invariant Checked.start (fun _ w turn _ h => Checked.next (e := ⟨w, turn⟩) h) turns
    fun _ _ => trivial

/-- **A look before every dispatch.** Whatever the turns before: a task that calls its handler has
looked into the ledger, and whenever it looked, the entry of its job was not there or the ledger could
not be read. -/
theorem looked_before_dispatch (turns : List (Turn σ)) (turn : Turn σ) (k n : Nat) (task : Task)
    (h : (World.empty.next turns turn).Dispatches k n task) :
    (∃ c ∈ World.empty.occurrences turns, c.Looks k n task.job ∧ c.Misses task.job) ∧
      ∀ c ∈ World.empty.occurrences turns, c.Looks k n task.job → c.Misses task.job := by
  obtain ⟨⟨-, htask⟩, hphase⟩ := h
  exact (checked_run turns).looked k n task htask (by rw [hphase]; rfl)

/-- A job is taken back by the reaper while its handler is at work, and claimed again. The second task
finds no entry and queues for the slot of the first; then the first one is done, records the job and
gives the slot back. -/
def overtaken : List (Turn Bool) :=
  [.quiet 0 .launchBehindDoor,
   .quiet 0 (.enqueue "a"),
   .quiet 0 (.act 0 .claim),
   .quiet 0 (.act 0 (.step 0 0)),
   .quiet 0 (.act 0 (.step 0 0)),
   .quiet 0 (.act 0 (.step 0 0)),
   .quiet 1 (.act 0 (.rescue Span.zero)),
   .quiet 1 (.act 0 .claim),
   .quiet 1 (.act 0 (.step 1 0)),
   .quiet 1 (.act 0 (.step 1 0)),
   .quiet 2 (.act 0 (.disturb true)),
   .quiet 2 (.act 0 (.step 0 0)),
   .quiet 2 (.act 0 (.step 0 0)),
   .quiet 2 (.act 0 (.step 0 0)),
   .quiet 2 (.act 0 (.step 0 0)),
   .quiet 2 (.act 0 (.step 1 0))]

/-- The job as the second task has claimed it: a claim, a pass of the reaper and a claim. -/
def overtakenJob : Job :=
  { id := 1, tenantId := none, jobType := "a", payload := [], status := .processing,
    idempotencyKey := none, attemptCount := 3, maxAttempts := 5, lastError := none,
    runAt := Store.wholeSecond 0, startedAt := some (Store.wholeSecond 1), completedAt := none,
    createdAt := Store.wholeSecond 0, updatedAt := Store.wholeSecond 1 }

/-- The second task calls the handler. -/
def secondCall : Turn Bool := .quiet 2 (.act 0 (.step 1 0))

theorem looked_before_dispatch_overtaken :
    (World.empty.actAll overtaken).tables.isRecorded 1 = true ∧
    (∃ c ∈ World.empty.occurrences overtaken, c.Looks 0 1 overtakenJob ∧ c.Misses overtakenJob) ∧
    ∀ c ∈ World.empty.occurrences overtaken, c.Looks 0 1 overtakenJob → c.Misses overtakenJob :=
  ⟨by decide, looked_before_dispatch overtaken secondCall 0 1 ⟨1, overtakenJob, .admitted⟩
    ⟨⟨⟨0, rfl⟩, by decide⟩, rfl⟩⟩

/-- The same with a second task that looks when the entry is there, and cannot read the ledger. -/
def overtakenUnread : List (Turn Bool) :=
  overtaken.take 8 ++ (overtaken.drop 10).take 5 ++
    [{ secondCall with faults := [true] }, secondCall]

/-- The ledger does not keep a recorded job from being called. A task that was queued when the entry was
written calls the handler all the same, and so does a task that looks later and cannot read the ledger.
-/
theorem recorded_job_dispatched :
    (¬ ∀ (turns : List (Turn Bool)) (turn : Turn Bool) (k n : Nat) (task : Task),
      (World.empty.actAll turns).tables.isRecorded task.job.id = true →
        ¬ (World.empty.next turns turn).Dispatches k n task) ∧
    (((World.empty.actAll (overtaken.take 12)).task? 0 1).map (·.phase) = some .queued ∧
      (World.empty.actAll (overtaken.take 12)).tables.isRecorded 1 = false ∧
      (World.empty.actAll (overtaken.take 13)).tables.isRecorded 1 = true ∧
      (World.empty.next overtaken secondCall).Dispatches 0 1 ⟨1, overtakenJob, .admitted⟩) ∧
    ((World.empty.actAll (overtakenUnread.take 13)).task? 0 1).map (·.phase) = some .checking ∧
      (World.empty.actAll (overtakenUnread.take 13)).tables.isRecorded 1 = true ∧
      (World.empty.next overtakenUnread secondCall).Dispatches 0 1 ⟨1, overtakenJob, .admitted⟩ := by
  have hcall : (World.empty.next overtaken secondCall).Dispatches 0 1 ⟨1, overtakenJob, .admitted⟩ :=
    ⟨⟨⟨0, rfl⟩, by decide⟩, rfl⟩
  refine ⟨fun h => ?_, ⟨by decide, by decide, by decide, hcall⟩, by decide, by decide, ?_⟩
  · exact h overtaken secondCall 0 1 ⟨1, overtakenJob, .admitted⟩ (by decide) hcall
  · exact ⟨⟨⟨0, rfl⟩, by decide⟩, rfl⟩

end DurableJobs
