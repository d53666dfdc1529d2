import Mathlib.Data.List.Nodup
import Mathlib.Data.List.Perm.Subperm
import DurableJobs.Proofs.System.Claims
import DurableJobs.Proofs.System.Dispatch

/-!
# How often a handler is called

A job has a greatest number of attempts, but it is only looked at when a handler has failed. A task that
is lost never comes to that, and neither claiming nor taking back asks how often a job has been tried.
So the number bounds the failures, not the calls: a pass over stuck jobs buys a job one more call, each
time, and `calls_of_one_job` says that nothing else does.

The count goes over claims. A row is claimed again only after it has been put off or taken back
(`Budgeted`); a put-off takes a task whose attempt is below the greatest, and the attempts of a job are
all different (`ToldApart`), so there are few of those; and a task calls its handler once.
-/

set_option autoImplicit false

namespace DurableJobs

open Store (Operation Reply)

variable {σ : Type} {history : List (Occurrence σ)} {e : Occurrence σ}

/-! ## What a task does once -/

/-- A step that a task takes once at most: it has it ahead of it in some phases, and takes it out of
them for good. -/
structure Milestone (σ : Type) where
  passes : Occurrence σ → Task → Bool
  ahead : Phase → Bool
  ahead_of_passes : ∀ e task, passes e task = true → ahead task.phase = true
  ahead_of_leads : ∀ (p : Processor σ) job now reply? before after,
    Leads p job now reply? before after → ahead after = true → ahead before = true
  behind : ∀ (e : Occurrence σ) k n task, e.Steps k n task → passes e task = true →
    ∀ task', e.after.task? k n = some task' → ahead task'.phase = false

namespace Milestone

/-- The job whose task passes a milestone in this turn. -/
def passing? (milestone : Milestone σ) (e : Occurrence σ) : Option Job :=
  (e.stepping?.filter fun step => milestone.passes e step.2).map (·.2.job)

/-- The jobs whose tasks have passed a milestone in a run, in order. -/
def passed (milestone : Milestone σ) (history : List (Occurrence σ)) : List Job :=
  history.filterMap milestone.passing?

variable {milestone : Milestone σ}

theorem passed_snoc (history : List (Occurrence σ)) (e : Occurrence σ) :
    milestone.passed (history ++ [e]) = milestone.passed history ++ (milestone.passing? e).toList :=
  Run.filterMap_snoc _ history e

theorem passing?_spec {job : Job} (h : milestone.passing? e = some job) :
    ∃ k n task, e.Steps k n task ∧ milestone.passes e task = true ∧ task.job = job := by
  obtain ⟨⟨k, task⟩, hstep, hjob⟩ := Option.map_eq_some_iff.mp h
  obtain ⟨hstepping, hpasses⟩ := Option.filter_eq_some_iff.mp hstep
  obtain ⟨n, hsteps⟩ := Occurrence.stepping?_spec hstepping
  exact ⟨k, n, task, hsteps, hpasses, hjob⟩

theorem passing?_of_steps {k n : Nat} {task : Task} (hsteps : e.Steps k n task)
    (hpasses : milestone.passes e task = true) : milestone.passing? e = some task.job := by
  rw [passing?, hsteps.stepping?, Option.filter_some, if_pos hpasses, Option.map_some]

theorem mem_passed_snoc {job : Job} (h : job ∈ milestone.passed (history ++ [e])) :
    job ∈ milestone.passed history ∨ milestone.passing? e = some job := by
  rw [passed_snoc] at h
  exact (List.mem_append.mp h).imp_right Option.mem_toList.mp

/-- The jobs that have passed are told apart, and a job that has it ahead has not passed. -/
structure Kept (milestone : Milestone σ) (history : List (Occurrence σ)) (w : World σ) : Prop where
  distinct : (milestone.passed history).Nodup
  known : ∀ job ∈ milestone.passed history, job ∈ claimedJobs history
  fresh : ∀ k n task, w.task? k n = some task → milestone.ahead task.phase = true →
    task.job ∉ milestone.passed history

theorem Kept.start : milestone.Kept [] (World.empty : World σ) where
  distinct := List.nodup_nil
  known _ h := nomatch h
  fresh _ _ _ h := nomatch h

theorem ahead_before {k n : Nat} {task : Task} (hafter : e.after.task? k n = some task)
    (hahead : milestone.ahead task.phase = true) :
    (∃ old, e.before.task? k n = some old ∧ old.job = task.job ∧ milestone.ahead old.phase = true) ∨
      e.claimed? = some task.job := by
  have hfate := e.taskFate k n
  rw [hafter] at hfate
  generalize hbefore : e.before.task? k n = task? at hfate
  cases hfate with
  | kept | rested => exact Or.inl ⟨task, rfl, rfl, hahead⟩
  | moved p old phase _ _ hleads =>
    exact Or.inl ⟨old, rfl, rfl, milestone.ahead_of_leads _ _ _ _ _ _ hleads hahead⟩
  | spawned p job haction hp hnew hreply =>
    exact Or.inr (Occurrence.claimed?_of_spawned haction hp hreply)

theorem Kept.next (h : milestone.Kept history e.before) (htold : ToldApart history e.before) :
    milestone.Kept (history ++ [e]) e.after where
  distinct := by
    rw [passed_snoc]
    refine List.nodup_append.mpr ⟨h.distinct, ?_, fun old hold job hjob hsame => ?_⟩
    · cases milestone.passing? e <;> simp
    · obtain ⟨k, n, task, hsteps, hpasses, rfl⟩ := passing?_spec (Option.mem_toList.mp hjob)
      exact h.fresh k n task hsteps.2 (milestone.ahead_of_passes e task hpasses) (hsame ▸ hold)
  known job hjob := by
    rw [claimedJobs_snoc]
    refine List.mem_append_left _ ?_
    rcases mem_passed_snoc hjob with hold | hnew
    · exact h.known job hold
    · obtain ⟨k, n, task, hsteps, -, rfl⟩ := passing?_spec hnew
      exact htold.claimed k n task hsteps.2
  fresh k n task hafter hahead hjob := by
    rcases ahead_before hafter hahead with ⟨old, hbefore, hsame, hwas⟩ | hclaimed
    · rcases mem_passed_snoc hjob with hold | hnew
      · exact h.fresh k n old hbefore hwas (hsame ▸ hold)
      · -- the task that passes now is this one, and it is behind its milestone then
        obtain ⟨k', n', task', hsteps, hpasses, hjob'⟩ := passing?_spec hnew
        obtain ⟨rfl, rfl⟩ := htold.alone k n old k' n' task' hbefore hsteps.2 (hsame.trans hjob'.symm)
        rw [milestone.behind e k n task' hsteps hpasses task hafter] at hahead
        cases hahead
    · refine htold.not_mem_of_claimed hclaimed ?_
      rcases mem_passed_snoc hjob with hold | hnew
      · exact h.known _ hold
      · obtain ⟨k', n', task', hsteps, -, hjob'⟩ := passing?_spec hnew
        exact hjob' ▸ htold.claimed k' n' task' hsteps.2

/-- The task has not called its handler yet. -/
def beforeCall : Phase → Bool
  | .checking | .asking | .queued | .admitted => true
  | _ => false

/-- A task calls its handler. -/
def call : Milestone σ where
  passes _ task := decide (task.phase = .admitted)
  ahead := beforeCall
  ahead_of_passes _ task h := by
    rw [of_decide_eq_true h]
    rfl
  ahead_of_leads _ _ _ _ before after h hahead := by
    cases h with
    | missed => rfl
    | looked _ _ hwaits => rcases hwaits with rfl | rfl <;> rfl
    | _ => cases hahead
  behind e k n task hsteps hpasses task' hafter := by
    have hphase := of_decide_eq_true hpasses
    obtain ⟨p, -, ⟨hrests, -⟩ | ⟨next, hleads, hnext⟩⟩ := hsteps.cases
    · rcases hrests with ⟨hrunning, -⟩ | hended
      · cases hphase.symm.trans hrunning
      · cases hphase.symm.trans hended
    · rw [hphase] at hleads
      rw [hnext] at hafter
      cases hleads with
      | looked _ _ hwaits => rcases hwaits with hwaits | hwaits <;> cases hwaits
      | called | succeeded | condemned | putOff =>
        cases hafter
        rfl

end Milestone

/-- The task is about to put its job off. -/
def Phase.putsOff : Phase → Bool
  | .rescheduling _ _ => true
  | _ => false

/-- A task puts its job off, and the store takes it. -/
def Milestone.putOff : Milestone σ where
  passes e task := task.phase.putsOff && e.reply?.any (·.isOk)
  ahead := Phase.holds
  ahead_of_passes e task h := by
    have hphase := (Bool.and_eq_true_iff.mp h).1
    generalize task.phase = phase at hphase
    cases phase <;> first | rfl | cases hphase
  ahead_of_leads _ _ _ _ _ _ h := h.holds_before
  behind e k n task hsteps hpasses task' hafter := by
    have hphase := (Bool.and_eq_true_iff.mp hpasses).1
    obtain ⟨p, -, ⟨hrests, -⟩ | ⟨next, hleads, hnext⟩⟩ := hsteps.cases
    · rcases hrests with ⟨hrunning, -⟩ | hended
      · rw [hrunning] at hphase
        cases hphase
      · rw [hended] at hphase
        cases hphase
    · rw [hnext] at hafter
      generalize task.phase = phase at hphase hleads
      cases phase <;> cases hphase
      cases hleads.of_rescheduling
      cases hafter
      rfl

/-! ## What makes a row pending -/

theorem Task.putsOff_of_operation {task : Task} {now retryAt : Instant} {id : Int} {error : String}
    (h : task.operation? now = some (.markFailed id error retryAt)) :
    task.phase.putsOff = true ∧ task.job.id = id := by
  unfold Task.operation? at h
  split at h <;> cases h
  next hphase =>
    rw [hphase]
    exact ⟨rfl, rfl⟩

/-- A row becomes pending when it comes into being, when its task puts it off, and when it is taken
back. -/
theorem Occurrence.pending_cases (ho : e.before.tables.Ordered) (hturn : e.act.leavesVerdicts = true)
    {id : Int} (hbefore : e.before.tables.standing id ≠ some Status.pending.name)
    (hafter : e.after.tables.standing id = some Status.pending.name) :
    e.before.tables.lastJobId < id ∨ (∃ job, Milestone.putOff.passing? e = some job ∧ job.id = id) ∨
      e.takesBack id = true := by
  obtain ⟨row', hrow', hstatus⟩ := Option.map_eq_some_iff.mp hafter
  have hrows : e.before.tables.job? id ≠ e.after.tables.job? id := fun hsame =>
    hbefore ((congrArg (Option.map Store.Row.status) hsame).trans hafter)
  rcases e.tables_cases with ⟨-, hsame⟩ | ⟨operation, reply, hop, hreply, hchange⟩
  · exact absurd (congrArg (Store.Tables.job? · id) hsame.symm) hrows
  · have hfate := hchange.fate ho id
    rw [hrow'] at hfate hrows
    rcases hfate.pending_by (beq_iff_eq.mpr hstatus)
      with hkept | hfresh | ⟨error, rfl, rfl⟩ | ⟨olderThan, rfl⟩
    · exact absurd hkept hrows
    · exact Or.inl hfresh
    · have hverdict : (Operation.markFailed id error row'.runAt).verdict? =
          some (id, some Status.pending.name) := rfl
      obtain ⟨k, n, task, _, _, hsteps, -⟩ := Occurrence.decides_of_verdict hturn hop hverdict hreply
      obtain ⟨hputs, hid⟩ := Task.putsOff_of_operation (hsteps.operation?.symm.trans hop)
      refine Or.inr (Or.inl ⟨task.job, Milestone.passing?_of_steps hsteps ?_, hid⟩)
      exact Bool.and_eq_true_iff.mpr ⟨hputs, by rw [hreply]; rfl⟩
    · refine Or.inr (Or.inr ?_)
      rw [Occurrence.takesBack, hop, hrow']
      exact Bool.and_eq_true_iff.mpr ⟨rfl, bne_iff_ne.mpr hrows⟩

/-! ## The budget of a job -/

/-- How many jobs of a list have an id. -/
def countOf (jobs : List Job) (id : Int) : Nat := jobs.countP (·.id == id)

/-- How often a pass over stuck jobs has taken the row of an id back. -/
def takings (history : List (Occurrence σ)) (id : Int) : Nat := history.countP (·.takesBack id)

theorem countOf_snoc (jobs : List Job) (job? : Option Job) (id : Int) :
    countOf (jobs ++ job?.toList) id = countOf jobs id + (job?.any (·.id == id)).toNat := by
  rw [countOf, List.countP_append, ← countOf]
  cases job? with
  | none => rfl
  | some job =>
    rw [Option.toList_some, List.countP_singleton, Option.any_some]
    cases job.id == id <;> rfl

/-- An id that has not been handed out has not been claimed. -/
theorem ToldApart.countOf_of_fresh {w : World σ} (h : ToldApart history w) {id : Int}
    (hid : w.tables.lastJobId < id) : countOf (claimedJobs history) id = 0 := by
  rw [countOf, List.countP_eq_zero]
  intro job hjob hsame
  have hhanded := h.handedOut job hjob
  rw [beq_iff_eq.mp hsame] at hhanded
  omega

/-- Whoever puts a job off has spared it, and each claim but one is paid for by a put-off or by a pass
over stuck jobs. -/
structure Budgeted (history : List (Occurrence σ)) (w : World σ) : Prop where
  toldApart : ToldApart history w
  called : Milestone.call.Kept history w
  putOff : Milestone.putOff.Kept history w
  about : ∀ k n task, w.task? k n = some task → task.phase.putsOff = true →
    task.job.attemptCount < task.job.maxAttempts
  spared : ∀ job ∈ Milestone.putOff.passed history, job.attemptCount < job.maxAttempts
  paid : ∀ id, countOf (claimedJobs history) id +
      (decide (w.tables.standing id = some Status.pending.name)).toNat ≤
    1 + countOf (Milestone.putOff.passed history) id + takings history id

theorem Budgeted.start : Budgeted [] (World.empty : World σ) where
  toldApart := ToldApart.start
  called := Milestone.Kept.start
  putOff := Milestone.Kept.start
  about _ _ _ h := nomatch h
  spared _ h := nomatch h
  paid id := by
    have := Bool.toNat_le (decide ((World.empty : World σ).tables.standing id =
      some Status.pending.name))
    exact Nat.le_trans (Nat.add_le_add_left this _) (Nat.le_refl 1)

namespace Budgeted

theorem about_next (h : Budgeted history e.before) {k n : Nat} {task : Task}
    (hafter : e.after.task? k n = some task) (hputs : task.phase.putsOff = true) :
    task.job.attemptCount < task.job.maxAttempts := by
  have hfate := e.taskFate k n
  rw [hafter] at hfate
  generalize hbefore : e.before.task? k n = task? at hfate
  cases hfate with
  | kept | rested => exact h.about k n task hbefore hputs
  | spawned => cases hputs
  | moved p old phase _ _ hleads =>
    dsimp only at hputs ⊢
    generalize old.phase = before at hleads
    cases hleads with
    | putOff _ outcome failure delay _ _ hagain =>
      simpa [DeadLetterPolicy.shouldMove, JobOf.attemptsExhausted, attemptsExhausted] using
        (Bool.or_eq_false_iff.mp hagain).1
    | looked _ _ _ hnext => rcases hnext with rfl | rfl | rfl <;> cases hputs
    | _ => cases hputs

theorem paid_next (h : Budgeted history e.before) (hturn : e.act.leavesVerdicts = true) (id : Int) :
    countOf (claimedJobs (history ++ [e])) id +
        (decide (e.after.tables.standing id = some Status.pending.name)).toNat ≤
      1 + countOf (Milestone.putOff.passed (history ++ [e])) id + takings (history ++ [e]) id := by
  have hpaid := h.paid id
  have ho := h.toldApart.ordered
  rw [claimedJobs_snoc, Milestone.passed_snoc, countOf_snoc, countOf_snoc, takings, Run.countP_snoc,
    ← takings]
  cases hclaims : e.claimed?.any (·.id == id) with
  | true =>
    -- a claim takes a row that is pending, and leaves it in processing
    obtain ⟨job, hjob, hid⟩ := (Option.any_eq_true _ _).mp hclaims
    cases beq_iff_eq.mp hid
    obtain ⟨hwas, his⟩ := Occurrence.claimed?_standing ho hjob
    have hnot : e.after.tables.standing job.id ≠ some Status.pending.name := by
      rw [his]
      decide
    rw [decide_eq_true hwas] at hpaid
    rw [decide_eq_false hnot]
    simp only [Bool.toNat_true, Bool.toNat_false] at hpaid ⊢
    omega
  | false =>
    by_cases hafter : e.after.tables.standing id = some Status.pending.name
    · by_cases hbefore : e.before.tables.standing id = some Status.pending.name
      · rw [decide_eq_true hbefore] at hpaid
        rw [decide_eq_true hafter]
        simp only [Bool.toNat_true, Bool.toNat_false] at hpaid ⊢
        omega
      · rw [decide_eq_true hafter]
        simp only [Bool.toNat_true, Bool.toNat_false]
        rcases Occurrence.pending_cases ho hturn hbefore hafter with hfresh | ⟨job, hputs, hid⟩ | htaken
        · have hnone := h.toldApart.countOf_of_fresh hfresh
          omega
        · rw [hputs, Option.any_some, beq_iff_eq.mpr hid]
          simp only [Bool.toNat_true]
          omega
        · rw [htaken]
          simp only [Bool.toNat_true]
          omega
    · rw [decide_eq_false hafter]
      simp only [Bool.toNat_false]
      omega

theorem next (h : Budgeted history e.before) (hturn : e.act.leavesVerdicts = true) :
    Budgeted (history ++ [e]) e.after where
  toldApart := h.toldApart.next
  called := h.called.next h.toldApart
  putOff := h.putOff.next h.toldApart
  about _ _ _ := h.about_next
  spared job hjob := by
    rcases Milestone.mem_passed_snoc hjob with hold | hnew
    · exact h.spared job hold
    · obtain ⟨k, n, task, hsteps, hpasses, rfl⟩ := Milestone.passing?_spec hnew
      exact h.about k n task hsteps.2 (Bool.and_eq_true_iff.mp hpasses).1
  paid := h.paid_next hturn

end Budgeted

theorem budgeted_run (turns : List (Turn σ)) (hturns : ∀ turn ∈ turns, turn.leavesVerdicts = true) :
    Budgeted (World.empty.occurrences turns) (World.empty.actAll turns) :=
  Run.invariant Budgeted.start
    (fun _ w turn hturn h => Budgeted.next (e := ⟨w, turn⟩) h hturn) turns hturns

/-! ## Counting jobs that are told apart -/

/-- Among jobs that are told apart there are no more of an id than there are of it in any list that has
them all. -/
theorem countOf_le {jobs all : List Job} (hdistinct : jobs.Nodup) (hall : ∀ job ∈ jobs, job ∈ all)
    (id : Int) : countOf jobs id ≤ countOf all id := by
  rw [countOf, countOf]
  exact (hdistinct.subperm hall).countP_le _

/-- A job is put off less often than it may be tried: each time at another attempt, and never at the last
one. -/
theorem Budgeted.putOffs_le {w : World σ} (h : Budgeted history w) {job : Job}
    (hjob : job ∈ claimedJobs history) :
    countOf (Milestone.putOff.passed history) job.id ≤ (job.maxAttempts - 1).toNat := by
  have hspared : ∀ other ∈ (Milestone.putOff.passed history).filter (·.id == job.id),
      other ∈ claimedJobs history ∧ other.id = job.id ∧ other.attemptCount < job.maxAttempts := by
    intro other hother
    obtain ⟨hpassed, hid⟩ := List.mem_filter.mp hother
    have hclaimed := h.putOff.known other hpassed
    rw [← h.toldApart.maxAttempts_eq hclaimed hjob (beq_iff_eq.mp hid)]
    exact ⟨hclaimed, beq_iff_eq.mp hid, h.spared other hpassed⟩
  have hdistinct : (((Milestone.putOff.passed history).filter (·.id == job.id)).map
      (·.attemptCount)).Nodup := by
    refine List.Nodup.map_on (fun a ha b hb hattempt => ?_) (h.putOff.distinct.filter _)
    obtain ⟨hmem, hid, -⟩ := hspared a ha
    obtain ⟨hmem', hid', -⟩ := hspared b hb
    exact h.toldApart.eq_of_attempt hmem hmem' (hid.trans hid'.symm) hattempt
  have hrange : ((Milestone.putOff.passed history).filter (·.id == job.id)).map (·.attemptCount) ⊆
      (List.range (job.maxAttempts - 1).toNat).map fun i : Nat => (i : Int) + 1 := by
    intro attempt hattempt
    obtain ⟨other, hother, rfl⟩ := List.mem_map.mp hattempt
    obtain ⟨hmem, -, hless⟩ := hspared other hother
    have hpositive := h.toldApart.positive other hmem
    refine List.mem_map.mpr ⟨(other.attemptCount - 1).toNat, List.mem_range.mpr ?_, ?_⟩ <;> omega
  have hlength := (hdistinct.subperm hrange).length_le
  rw [List.length_map, List.length_map, List.length_range] at hlength
  rw [countOf, List.countP_eq_length_filter]
  exact hlength

def calledJobs (history : List (Occurrence σ)) : List Job := Milestone.call.passed history

/-- **Calls of one job.** In every run in which verdicts are left to the tasks: the handler of a job is
called no more often than the job may be tried (once at least), and once more for each pass over stuck
jobs that takes it back. -/
theorem calls_of_one_job (turns : List (Turn σ)) (hturns : ∀ turn ∈ turns, turn.leavesVerdicts = true)
    (job : Job) (hjob : job ∈ calledJobs (World.empty.occurrences turns)) :
    countOf (calledJobs (World.empty.occurrences turns)) job.id ≤
        max 1 job.maxAttempts.toNat + takings (World.empty.occurrences turns) job.id ∧
    ∀ row, (World.empty.actAll turns).tables.job? job.id = some row →
      row.maxAttempts = job.maxAttempts := by
  have hall := budgeted_run turns hturns
  have hclaimed := hall.called.known job hjob
  refine ⟨?_, fun row hrow => (hall.toldApart.fenced job hclaimed row hrow).2.symm⟩
  have hcalls : countOf (calledJobs (World.empty.occurrences turns)) job.id ≤
      countOf (claimedJobs (World.empty.occurrences turns)) job.id :=
    countOf_le hall.called.distinct hall.called.known job.id
  have hputOffs := hall.putOffs_le hclaimed
  have hpaid := hall.paid job.id
  omega

/-- A job that may be tried once. Its task is lost while the handler is at work, the reaper takes the job
back, and it is claimed and its handler called again, as long as the workers go on being lost. -/
def lostTwice : List (Turn Bool) :=
  [.quiet 0 (.launch ProcessorConfig.standard (Registry.empty.register "a" Handler.behindDoor)
     .standard false),
   .quiet 0 (.ask (.enqueue ⟨"a", [], none, none, some 1, none⟩ Store.standardMaxAttempts)),
   .quiet 0 (.act 0 .claim),
   .quiet 0 (.act 0 (.step 0 0)), .quiet 0 (.act 0 (.step 0 0)), .quiet 0 (.act 0 (.step 0 0)),
   .quiet 0 (.act 0 (.lose 0)),
   .quiet 1 (.act 0 (.rescue Span.zero)),
   .quiet 1 (.act 0 .claim),
   .quiet 1 (.act 0 (.step 1 0)), .quiet 1 (.act 0 (.step 1 0)), .quiet 1 (.act 0 (.step 1 0)),
   .quiet 1 (.act 0 (.lose 1)),
   .quiet 2 (.act 0 (.rescue Span.zero)),
   .quiet 2 (.act 0 .claim),
   .quiet 2 (.act 0 (.step 2 0)), .quiet 2 (.act 0 (.step 2 0)), .quiet 2 (.act 0 (.step 2 0))]

def lostJob : Job :=
  { id := 1, tenantId := none, jobType := "a", payload := [], status := .processing,
    idempotencyKey := none, attemptCount := 1, maxAttempts := 1, lastError := none,
    runAt := Store.wholeSecond 0, startedAt := some (Store.wholeSecond 0), completedAt := none,
    createdAt := Store.wholeSecond 0, updatedAt := Store.wholeSecond 0 }

theorem lostJob_called : lostJob ∈ calledJobs (World.empty.occurrences lostTwice) := by decide

theorem calls_of_one_job_lostTwice :
    countOf (calledJobs (World.empty.occurrences lostTwice)) 1 = 3 ∧
    takings (World.empty.occurrences lostTwice) 1 = 2 ∧
    countOf (calledJobs (World.empty.occurrences lostTwice)) lostJob.id ≤
      max 1 lostJob.maxAttempts.toNat + takings (World.empty.occurrences lostTwice) lostJob.id :=
  ⟨by decide, by decide, (calls_of_one_job lostTwice (by decide) lostJob lostJob_called).1⟩

/-- The greatest number of attempts does not bound the calls of a handler: a job that may be tried once
is called three times when two workers are lost. -/
theorem lost_job_called_again :
    ¬ ∀ (turns : List (Turn Bool)), (∀ turn ∈ turns, turn.leavesVerdicts = true) →
      ∀ job ∈ calledJobs (World.empty.occurrences turns),
        countOf (calledJobs (World.empty.occurrences turns)) job.id ≤ max 1 job.maxAttempts.toNat := by
  intro h
  have hcalls := h lostTwice (by decide) lostJob lostJob_called
  have hthree : countOf (calledJobs (World.empty.occurrences lostTwice)) lostJob.id = 3 := by decide
  rw [hthree] at hcalls
  exact absurd hcalls (by decide)

end DurableJobs
