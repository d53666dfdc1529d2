import DurableJobs.Proofs.Store.Verdicts
import DurableJobs.Proofs.System.Tasks

/-!
# Closed rows

A row that is completed, cancelled or failed should be closed for good, and claiming, taking back and
cancelling do keep away from it. Verdicts do not: they name a row by its id and look at nothing else. So
everything hangs on who still holds a job when its row is closed.

While nobody is robbed there is no such holder. A job has one task at most that may say what becomes of
it, and its row is processing as long as that task may (`Owned`). A reaper that takes a row back from a
task at work breaks this: the task does not learn of it, and its verdict will land on whatever the row
has become by then. `closed_row_moves_iff` says that these stale verdicts are the only thing that ever
moves a closed row.
-/

set_option autoImplicit false

namespace DurableJobs

open Store (Operation Reply closedStatuses)

variable {σ : Type}

/-- A task in this phase may still say what becomes of its job. -/
def Phase.holds : Phase → Bool
  | .announcing | .releasing | .ended => false
  | _ => true

/-- A task holds a job. -/
def World.Holds (w : World σ) (k n : Nat) (id : Int) : Prop :=
  ∃ task, w.task? k n = some task ∧ task.phase.holds = true ∧ task.job.id = id

/-- A pass over stuck jobs. -/
def Store.Operation.reclaims : Operation → Bool
  | .reclaimStuck _ => true
  | _ => false

/-- Verdicts are left to the tasks. -/
def Turn.leavesVerdicts (turn : Turn σ) : Bool :=
  match turn.action with
  | .ask operation => operation.verdict?.isNone
  | _ => true

namespace Occurrence

/-- A pass over stuck jobs takes a row back from a task that holds its job. -/
def Robs (e : Occurrence σ) (id : Int) : Prop :=
  (∃ olderThan, e.operation? = some (.reclaimStuck olderThan)) ∧
    e.before.tables.job? id ≠ e.after.tables.job? id ∧ ∃ k n, e.before.Holds k n id

/-- A pass over stuck jobs changes the row of an id. -/
def takesBack (e : Occurrence σ) (id : Int) : Bool :=
  e.operation?.any Operation.reclaims && e.before.tables.job? id != e.after.tables.job? id

/-- A task gives a verdict on its job, and the store takes it. -/
def Decides (e : Occurrence σ) (k n : Nat) (id : Int) (verdict : Option String) : Prop :=
  ∃ task operation answer, e.Steps k n task ∧ task.operation? e.now = some operation ∧
    operation.verdict? = some (id, verdict) ∧ e.reply? = some (.ok answer)

end Occurrence

/-! ## Tasks and verdicts -/

theorem verdict?_of_routine {operation : Operation} (h : operation.routine = true) :
    operation.verdict? = none := by
  cases operation <;> first | rfl | exact nomatch h

/-- The verdicts of a task are about its own job, and it holds the job as long as it has them to give.
-/
theorem Task.verdict_spec {task : Task} {now : Instant} {operation : Operation} {id : Int}
    {verdict : Option String} (hop : task.operation? now = some operation)
    (hverdict : operation.verdict? = some (id, verdict)) :
    task.job.id = id ∧ task.phase.holds = true := by
  unfold Task.operation? at hop
  split at hop <;> cases hop <;> cases hverdict
  all_goals
    next hphase =>
      rw [hphase]
      exact ⟨rfl, rfl⟩

/-- A task that has given a verdict, and been answered, lets its job go. -/
theorem Leads.lets_go {p : Processor σ} {task : Task} {now : Instant} {phase : Phase}
    {operation : Operation} {verdict : Int × Option String} {answer : Reply}
    (h : Leads p task.job now (some (.ok answer)) task.phase phase)
    (hop : task.operation? now = some operation) (hverdict : operation.verdict? = some verdict) :
    phase.holds = false := by
  obtain ⟨n, job, phase₀⟩ := task
  dsimp only at h
  cases h with
  | confirmed | recorded | archived | buried | rescheduled => rfl
  | unrecorded _ hanswer => cases hanswer
  | unarchived _ _ hanswer => cases hanswer
  | found | missed =>
    cases hop
    cases hverdict
  | called | announced | released => cases hop
  | looked _ _ hwaits => rcases hwaits with rfl | rfl <;> cases hop
  | succeeded _ hears =>
    cases phase₀ <;> first | cases hears | cases hop
  | condemned _ _ _ hears =>
    cases phase₀ <;> first | cases hears | cases hop
  | putOff _ _ _ _ hears =>
    cases phase₀ <;> first | cases hears | cases hop

/-- A task that holds a job has held it before, on the way it came. -/
theorem Leads.holds_before {p : Processor σ} {job : Job} {now : Instant}
    {reply? : Option (Except StoreError Reply)} {before after : Phase}
    (h : Leads p job now reply? before after) (hafter : after.holds = true) : before.holds = true := by
  cases h with
  | looked _ _ hwaits => rcases hwaits with rfl | rfl <;> rfl
  | succeeded _ hears => cases before <;> first | rfl | cases hears
  | condemned _ _ _ hears => cases before <;> first | rfl | cases hears
  | putOff _ _ _ _ hears => cases before <;> first | rfl | cases hears
  | found | missed | called | unarchived => rfl
  | _ => cases hafter

variable {e : Occurrence σ}

namespace Occurrence

/-- Whoever holds a job has held it before or has just claimed it. -/
theorem held_before {k n : Nat} {id : Int} (h : e.after.Holds k n id) :
    e.before.Holds k n id ∨
    ∃ p job, e.act.action = .act k .claim ∧ e.before.processors[k]? = some p ∧ n = p.nextTask ∧
      job.id = id ∧ e.reply? = some (.ok (.claimed (some job))) := by
  obtain ⟨task, hafter, hholds, hid⟩ := h
  have hfate := e.taskFate k n
  rw [hafter] at hfate
  generalize hbefore : e.before.task? k n = task? at hfate
  cases hfate with
  | kept => exact Or.inl ⟨task, hbefore, hholds, hid⟩
  | rested => exact Or.inl ⟨task, hbefore, hholds, hid⟩
  | moved p old phase _ _ hleads => exact Or.inl ⟨old, hbefore, hleads.holds_before hholds, hid⟩
  | spawned p job haction hp hnew hreply =>
    exact Or.inr ⟨p, job, haction, hp, hnew, hid, hreply⟩

/-- Nobody is robbed by a pass that meets no task holding the job. -/
theorem not_robs {id : Int}
    (h : e.operation?.any Operation.reclaims = true → ∀ p ∈ e.before.processors, ∀ task ∈ p.tasks,
      task.phase.holds = true → task.job.id ≠ id) : ¬ e.Robs id := by
  rintro ⟨⟨olderThan, hop⟩, -, k, n, task, htask, hholds, hid⟩
  obtain ⟨p, hp, hn⟩ := Option.bind_eq_some_iff.mp htask
  rw [hop] at h
  exact h rfl p (List.mem_of_getElem? hp) task (List.mem_of_find?_eq_some hn) hholds hid

/-- Whoever decides does not hold the job any more. -/
theorem Decides.lets_go {k n : Nat} {id : Int} {verdict : Option String}
    (h : e.Decides k n id verdict) (other : Int) : ¬ e.after.Holds k n other := by
  obtain ⟨task, operation, answer, hsteps, hop, hverdict, hreply⟩ := h
  rintro ⟨task', hafter, hholds, -⟩
  have hfate := e.taskFate k n
  rw [hafter, hsteps.2] at hfate
  cases hfate with
  | kept _ away => exact away _ hsteps
  | rested _ _ hrests =>
    rw [hop] at hrests
    cases hrests
  | moved p _ phase _ _ hleads =>
    rw [hreply] at hleads
    rw [hleads.lets_go hop hverdict] at hholds
    cases hholds

theorem Decides.holds {k n : Nat} {id : Int} {verdict : Option String}
    (h : e.Decides k n id verdict) : e.before.Holds k n id := by
  obtain ⟨task, operation, answer, hsteps, hop, hverdict, -⟩ := h
  obtain ⟨hid, hholds⟩ := Task.verdict_spec hop hverdict
  exact ⟨task, hsteps.2, hholds, hid⟩

/-- A verdict that is answered comes from a task. -/
theorem decides_of_verdict (hturn : e.act.leavesVerdicts = true) {operation : Operation}
    {answer : Reply} {id : Int} {verdict : Option String} (hop : e.operation? = some operation)
    (hverdict : operation.verdict? = some (id, verdict)) (hreply : e.reply? = some (.ok answer)) :
    ∃ k n, e.Decides k n id verdict := by
  rcases e.asked hop with haction | ⟨k, n, task, hsteps, htask⟩ | hroutine
  · rw [Turn.leavesVerdicts, haction] at hturn
    rw [Option.isNone_iff_eq_none.mp hturn] at hverdict
    cases hverdict
  · exact ⟨k, n, task, operation, answer, hsteps, htask, hverdict, hreply⟩
  · rw [verdict?_of_routine hroutine] at hverdict
    cases hverdict

end Occurrence

/-! ## Owners -/

/-- The job has one holder at most, and is processing as long as it has one. -/
structure Owned (w : World σ) (id : Int) : Prop where
  processing : ∀ k n, w.Holds k n id → w.tables.standing id = some Status.processing.name
  alone : ∀ k n k' n', w.Holds k n id → w.Holds k' n' id → k = k' ∧ n = n'

/-- A claim that is answered takes a pending job into processing. -/
theorem Occurrence.claim_spec (ho : e.before.tables.Ordered) {k : Nat} {job : Job}
    (haction : e.act.action = .act k .claim)
    (hreply : e.reply? = some (.ok (.claimed (some job)))) :
    e.before.tables.standing job.id = some Status.pending.name ∧
      e.after.tables.standing job.id = some Status.processing.name := by
  obtain ⟨operation, hop, -⟩ := Option.map_eq_some_iff.mp hreply
  have hchange := Occurrence.change hop hreply
  rw [Occurrence.operation?, haction] at hop
  obtain ⟨p, -, hclaim⟩ := Option.bind_eq_some_iff.mp hop
  rw [Processor.operation?] at hclaim
  split at hclaim <;> cases hclaim
  obtain ⟨row, hbefore, hpending, hafter, -⟩ := hchange.claimed_spec ho
  rw [Store.Tables.standing, Store.Tables.standing, hbefore, hafter]
  exact ⟨congrArg some (beq_iff_eq.mp hpending), rfl⟩

namespace Owned

variable {id : Int}

/-- The row of a job stays in processing as long as its owner is at work and is not robbed. -/
theorem stays (h : Owned e.before id) (ho : e.before.tables.Ordered)
    (hturn : e.act.leavesVerdicts = true) (hrob : ¬ e.Robs id) {k n : Nat}
    (hbefore : e.before.Holds k n id) (hafter : e.after.Holds k n id) :
    e.after.tables.standing id = some Status.processing.name := by
  have hstanding := h.processing k n hbefore
  rcases e.tables_cases with ⟨-, hsame⟩ | ⟨operation, reply, hop, hreply, hchange⟩
  · rw [hsame]
    exact hstanding
  · by_contra hmoves
    obtain ⟨row, hrow, hstatus⟩ := Option.map_eq_some_iff.mp hstanding
    have hfate := hchange.fate ho id
    rw [hrow] at hfate
    -- a processing row is moved by a robbery or by a verdict, and the verdict is its only holder's
    rcases hfate.moved (hstatus ▸ hmoves) with hpending | ⟨-, olderThan, rfl⟩ | ⟨hverdict, answer, rfl⟩
    · cases Store.hasStatus_of_status hstatus hpending
    · refine hrob ⟨⟨olderThan, hop⟩, fun hsame => hmoves ?_, k, n, hbefore⟩
      rw [Store.Tables.standing, ← hsame]
      exact hstanding
    · obtain ⟨k', n', hdecides⟩ := Occurrence.decides_of_verdict hturn hop hverdict hreply
      obtain ⟨rfl, rfl⟩ := h.alone k n k' n' hbefore hdecides.holds
      exact hdecides.lets_go id hafter

/-- A job that has a holder cannot be claimed. -/
theorem not_claimed (h : Owned e.before id) (ho : e.before.tables.Ordered) {j k n : Nat} {job : Job}
    (hheld : e.before.Holds k n id) (haction : e.act.action = .act j .claim) (hid : job.id = id) :
    e.reply? ≠ some (.ok (.claimed (some job))) := by
  intro hreply
  have hpending := (Occurrence.claim_spec ho haction hreply).1
  rw [hid, h.processing k n hheld] at hpending
  exact absurd hpending (by decide)

theorem next (h : Owned e.before id) (ho : e.before.tables.Ordered)
    (hturn : e.act.leavesVerdicts = true) (hrob : ¬ e.Robs id) : Owned e.after id where
  processing k n hafter := by
    rcases Occurrence.held_before hafter with hbefore | ⟨p, job, haction, -, -, rfl, hreply⟩
    · exact h.stays ho hturn hrob hbefore hafter
    · exact (Occurrence.claim_spec ho haction hreply).2
  alone k n k' n' hafter hafter' := by
    -- two holders are two old ones, or both the one that this turn starts: a job with a holder is not
    -- pending, so nobody claims it
    rcases Occurrence.held_before hafter with hbefore | ⟨p, job, haction, hp, hn, hid, hreply⟩ <;>
      rcases Occurrence.held_before hafter'
        with hbefore' | ⟨p', job', haction', hp', hn', hid', hreply'⟩
    · exact h.alone k n k' n' hbefore hbefore'
    · exact absurd hreply' (h.not_claimed ho hbefore haction' hid')
    · exact absurd hreply (h.not_claimed ho hbefore' haction hid)
    · rw [haction] at haction'
      cases haction'
      rw [hp] at hp'
      cases hp'
      exact ⟨rfl, hn.trans hn'.symm⟩

end Owned

/-! ## Runs -/

/-- Every job that nobody has been robbed of is owned. -/
structure Undisputed (history : List (Occurrence σ)) (w : World σ) : Prop where
  ordered : w.tables.Ordered
  owned : ∀ id, (∃ e ∈ history, e.Robs id) ∨ Owned w id

theorem Undisputed.start : Undisputed [] (World.empty : World σ) where
  ordered := Store.Tables.empty_ordered
  owned id := by
    have hnobody : ∀ k n, ¬ (World.empty : World σ).Holds k n id := by
      rintro k n ⟨task, htask, -⟩
      cases htask
    exact Or.inr
      ⟨fun k n h => absurd h (hnobody k n), fun k n _ _ h _ => absurd h (hnobody k n)⟩

theorem Undisputed.next {history : List (Occurrence σ)} (h : Undisputed history e.before)
    (hturn : e.act.leavesVerdicts = true) : Undisputed (history ++ [e]) e.after where
  ordered := e.ordered h.ordered
  owned id := by
    rcases h.owned id with ⟨r, hr, hrobs⟩ | howned
    · exact Or.inl ⟨r, List.mem_append_left _ hr, hrobs⟩
    · by_cases hrobs : e.Robs id
      · exact Or.inl ⟨e, by simp, hrobs⟩
      · exact Or.inr (howned.next h.ordered hturn hrobs)

theorem undisputed_run (turns : List (Turn σ)) (hturns : ∀ turn ∈ turns, turn.leavesVerdicts = true) :
    Undisputed (World.empty.occurrences turns) (World.empty.actAll turns) :=
  Run.invariant Undisputed.start
    (fun _ w turn hturn h => Undisputed.next (e := ⟨w, turn⟩) h hturn) turns hturns

/-- A verdict that is answered is carried out. -/
theorem Occurrence.Decides.carried_out {k n : Nat} {id : Int} {verdict : Option String}
    (h : e.Decides k n id verdict) : e.after.tables.standing id = verdict := by
  obtain ⟨task, operation, answer, hsteps, hop, hverdict, hreply⟩ := h
  have hchange := Occurrence.change (hsteps.operation?.trans hop) hreply
  exact hchange.standing_of_verdict hverdict

/-- A closed row that a turn moves has been given a verdict by a task. -/
theorem Occurrence.decides_of_moved (ho : e.before.tables.Ordered) (hturn : e.act.leavesVerdicts = true)
    {id : Int} {status : Status} (hclosed : status ∈ closedStatuses)
    (hstanding : e.before.tables.standing id = some status.name)
    (hmoves : e.after.tables.standing id ≠ some status.name) :
    ∃ k n, e.Decides k n id (e.after.tables.standing id) := by
  rcases e.tables_cases with ⟨-, hsame⟩ | ⟨operation, reply, hop, hreply, hchange⟩
  · rw [hsame] at hmoves
    exact absurd hstanding hmoves
  · obtain ⟨row, hrow, hstatus⟩ := Option.map_eq_some_iff.mp hstanding
    have hfate := hchange.fate ho id
    rw [hrow] at hfate
    obtain ⟨hverdict, answer, rfl⟩ := hfate.verdict_of_closed hclosed hstatus (hstatus ▸ hmoves)
    exact decides_of_verdict hturn hop hverdict hreply

/-- **Closed rows.** In every run of the system in which verdicts are left to the tasks, the next turn
moves a row that is completed, cancelled or failed, or takes it out of the live jobs, exactly when it is
a task's step with another verdict on that job and the store takes it. And that only happens where a
reaper has taken the row back from a task at work. -/
theorem closed_row_moves_iff (turns : List (Turn σ)) (turn : Turn σ)
    (hturns : ∀ t ∈ turns, t.leavesVerdicts = true) (hturn : turn.leavesVerdicts = true) (id : Int)
    (status : Status) (hclosed : status ∈ closedStatuses)
    (hstanding : (World.empty.actAll turns).tables.standing id = some status.name) :
    ((World.empty.next turns turn).after.tables.standing id ≠ some status.name ↔
      ∃ k n verdict, verdict ≠ some status.name ∧
        (World.empty.next turns turn).Decides k n id verdict) ∧
    ((World.empty.next turns turn).after.tables.standing id ≠ some status.name →
      ∃ r ∈ World.empty.occurrences turns, r.Robs id) := by
  have hall := undisputed_run turns hturns
  have hdecides := Occurrence.decides_of_moved (e := World.empty.next turns turn) hall.ordered hturn
    hclosed hstanding
  refine ⟨⟨fun hmoves => ?_, ?_⟩, fun hmoves => ?_⟩
  · obtain ⟨k, n, h⟩ := hdecides hmoves
    exact ⟨k, n, _, hmoves, h⟩
  · rintro ⟨k, n, verdict, hother, h⟩
    rw [h.carried_out]
    exact hother
  · obtain ⟨k, n, h⟩ := hdecides hmoves
    -- the holder of an owned job has its row in processing, and this row is closed
    refine (hall.owned id).resolve_right fun howned => ?_
    have hprocessing := howned.processing k n h.holds
    rw [hstanding] at hprocessing
    cases Store.status_of_name (Option.some.inj hprocessing)
    exact absurd hclosed (by decide)

/-- A job is claimed, taken back by the reaper while its handler is at work, and cancelled. Then its
handler is done. -/
def cancelledAtWork : List (Turn Bool) :=
  [.quiet 0 .launchBehindDoor,
   .quiet 0 (.enqueue "a"),
   .quiet 0 (.act 0 .claim),
   .quiet 0 (.act 0 (.step 0 0)),
   .quiet 0 (.act 0 (.step 0 0)),
   .quiet 0 (.act 0 (.step 0 0)),
   .quiet 1 (.act 0 (.rescue Span.zero)),
   .quiet 1 (.ask (.cancel 1)),
   .quiet 2 (.act 0 (.disturb true)),
   .quiet 2 (.act 0 (.step 0 0))]

/-- The task records its work. -/
def lateVerdict : Turn Bool := .quiet 2 (.act 0 (.step 0 0))

theorem closed_row_moves_iff_late :
    (World.empty.actAll cancelledAtWork).tables.standing 1 = some Status.cancelled.name ∧
    ((World.empty.next cancelledAtWork lateVerdict).after.tables.standing 1 ≠
        some Status.cancelled.name ↔
      ∃ k n verdict, verdict ≠ some Status.cancelled.name ∧
        (World.empty.next cancelledAtWork lateVerdict).Decides k n 1 verdict) ∧
    ∃ r ∈ World.empty.occurrences cancelledAtWork, r.Robs 1 := by
  have hstanding : (World.empty.actAll cancelledAtWork).tables.standing 1 =
      some Status.cancelled.name := by decide
  obtain ⟨hiff, hrobbed⟩ := closed_row_moves_iff cancelledAtWork lateVerdict (by decide) (by decide) 1
    .cancelled (by decide) hstanding
  exact ⟨hstanding, hiff, hrobbed (by decide)⟩

/-- Closed rows are not closed for good: here a cancelled job becomes a completed one. -/
theorem cancelled_job_completed :
    ¬ ∀ (turns : List (Turn Bool)) (turn : Turn Bool),
      (∀ t ∈ turns, t.leavesVerdicts = true) → turn.leavesVerdicts = true →
      ∀ (id : Int) (status : Status), status ∈ closedStatuses →
        (World.empty.actAll turns).tables.standing id = some status.name →
        (World.empty.next turns turn).after.tables.standing id = some status.name := by
  intro h
  have hstays := h cancelledAtWork lateVerdict (by decide) (by decide) 1 .cancelled (by decide)
    (by decide)
  exact absurd hstays (by decide)

end DurableJobs
