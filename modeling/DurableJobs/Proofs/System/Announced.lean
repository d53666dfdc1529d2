import DurableJobs.Proofs.System.Closed

/-!
# Told once

That a job is done is told to the world after it has been recorded, by the task that recorded it. Tasks
crash, store calls fail and jobs are tried again, so it may well not be told at all. It is not told
twice, though, as long as the reaper takes rows back from lost tasks only.

The reason is the owner of a job (`Owned`). Only an owner records a job, and when it has, the row is
completed, so the job has no holder any more and never gets one again: nobody is left who could record
it a second time. A run of one job therefore goes through three stages (`Stage`): nothing has been told,
one task is about to tell, it has been told.
-/

set_option autoImplicit false

namespace DurableJobs

open Store (Operation Reply closedStatuses)

variable {σ : Type}

/-! ## What is told -/

/-- What the processor at a place has told, in order. -/
def World.notifications (w : World σ) (k : Nat) : List Notification :=
  w.processors[k]?.elim [] (·.notifications)

/-- A task is about to tell that a job is done. -/
def World.Announces (w : World σ) (k n : Nat) (id : Int) : Prop :=
  ∃ task, w.task? k n = some task ∧ task.phase = .announcing ∧ task.job.id = id

/-- A task that tells that its job is done when it takes its step. -/
def Task.announces (task : Task) : Bool := decide (task.phase = .announcing)

/-- The place of the processor that tells that a job is done in this turn, and the job. -/
def Occurrence.announced? (e : Occurrence σ) : Option (Nat × Job) :=
  (e.stepping?.filter (·.2.announces)).map fun step => (step.1, step.2.job)

def announcements (history : List (Occurrence σ)) : List (Nat × Job) :=
  history.filterMap (·.announced?)

namespace Processor

@[simp] theorem moveTo_notifications (p : Processor σ) (n : Nat) (phase : Phase) :
    (p.moveTo n phase).notifications = p.notifications := by
  unfold moveTo
  split <;> rfl

theorem finish_notifications (p : Processor σ) (task : Task) (outcome : HandlerOutcome) (now : Instant)
    (draw : Nat) : (p.finish task outcome now draw).notifications = p.notifications :=
  moveTo_notifications _ _ _

/-- A step tells of its job exactly when its task is about to, whatever the store answers. -/
theorem step_notifications (p : Processor σ) (task : Task) (moment : Moment) (draw : Nat)
    (s : Store.Session) :
    (p.step task moment draw s).1.notifications =
      p.notifications ++ if task.phase = .announcing then [completion task.job] else [] := by
  obtain ⟨n, job, phase⟩ := task
  unfold step
  cases phase <;> dsimp only
  case checking =>
    rcases (Store.isProcessed job.id).execute s with ⟨_ | _ | _, _⟩ <;> simp
  case admitted =>
    rcases p.registry.dispatch (JobContext.ofJob job) job.payload p.collaborators with ⟨_ | _, _⟩ <;>
      simp [finish_notifications]
  case running =>
    rcases p.registry.resume (JobContext.ofJob job) p.collaborators with _ | _ <;>
      simp [finish_notifications]
  case completing =>
    rcases (Store.completeProcessed job.id moment.wall).execute s with ⟨_ | _, _⟩ <;> simp
  case archiving message =>
    rcases (Store.archive job message moment.wall).execute s with ⟨_ | _, _⟩ <;> simp
  all_goals simp

theorem act_notifications (p : Processor σ) (deed : Deed σ) (moment : Moment) (s : Store.Session) :
    (p.act deed moment s).1.notifications = p.notifications ++
      ((p.stepping? deed).filter (·.announces)).toList.map fun task => completion task.job := by
  cases deed with
  | produce job attempts =>
    rw [act, Producer.enqueue]
    rcases (Store.enqueue job attempts moment.wall).execute s with ⟨_ | _, _⟩ <;>
      exact (List.append_nil _).symm
  | claim =>
    rw [act, claim]
    split
    · exact (List.append_nil _).symm
    · rcases (Store.claimNext moment.wall).execute s with ⟨_ | _ | _, _⟩ <;>
        exact (List.append_nil _).symm
  | step n draw =>
    simp only [act, stepping?]
    cases p.task? n with
    | none => exact (List.append_nil _).symm
    | some task =>
      dsimp only
      rw [step_notifications]
      by_cases h : task.phase = .announcing <;> simp [Option.filter, Task.announces, h]
  | lose n => simp [act, lose, stepping?]
  | rescue | cancel | register | disturb => exact (List.append_nil _).symm

end Processor

namespace Occurrence

variable {e : Occurrence σ}

theorem announced?_spec {k : Nat} {job : Job} (h : e.announced? = some (k, job)) :
    ∃ n task, e.Steps k n task ∧ task.phase = .announcing ∧ task.job = job := by
  obtain ⟨⟨k', task⟩, hstep, heq⟩ := Option.map_eq_some_iff.mp h
  cases heq
  obtain ⟨hstepping, hannounces⟩ := Option.filter_eq_some_iff.mp hstep
  obtain ⟨n, hsteps⟩ := stepping?_spec hstepping
  exact ⟨n, task, hsteps, of_decide_eq_true hannounces, rfl⟩

/-- What is told in a turn is told by the processor that acts, and by no other. -/
theorem after_notifications (e : Occurrence σ) (k : Nat) :
    e.after.notifications k = e.before.notifications k ++
      (e.announced?.toList.filter (·.1 == k)).map fun a => Processor.completion a.2 := by
  unfold Occurrence.after World.act announced? stepping? World.notifications
  cases haction : e.act.action with
  | ask => exact (List.append_nil _).symm
  | launch config registry limiter collaborators =>
    -- a processor that has just been launched has told nothing
    dsimp only
    rw [List.getElem?_append]
    split
    · exact (List.append_nil _).symm
    · next hk =>
      rw [List.getElem?_eq_none (Nat.le_of_not_lt hk), List.getElem?_singleton]
      split <;> rfl
  | act j deed =>
    dsimp only
    cases hp : e.before.processors[j]? with
    | none => exact (List.append_nil _).symm
    | some p =>
      obtain ⟨hj, -⟩ := List.getElem?_eq_some_iff.mp hp
      dsimp only
      rw [List.getElem?_set, Option.bind_some]
      by_cases hk : j = k
      · subst hk
        rw [if_pos rfl, if_pos hj, hp]
        refine (p.act_notifications deed _ _).trans ?_
        cases p.stepping? deed with
        | none => rfl
        | some task => cases h : task.announces <;> simp [Option.filter, h]
      · rw [if_neg hk]
        cases p.stepping? deed with
        | none => exact (List.append_nil _).symm
        | some task => cases h : task.announces <;> simp [Option.filter, h, hk]

theorem announces_before {k n : Nat} {id : Int} (h : e.after.Announces k n id) :
    e.before.Announces k n id ∨ e.Decides k n id (some Status.completed.name) := by
  obtain ⟨task, hafter, hphase, hid⟩ := h
  have hfate := e.taskFate k n
  rw [hafter] at hfate
  generalize hbefore : e.before.task? k n = task? at hfate
  cases hfate with
  | kept => exact Or.inl ⟨task, hbefore, hphase, hid⟩
  | rested => exact Or.inl ⟨task, hbefore, hphase, hid⟩
  | spawned => cases hphase
  | moved p old phase hsteps _ hleads =>
    dsimp only at hphase hid
    subst hphase hid
    generalize hwas : old.phase = before at hleads
    cases hleads with
    | recorded reply hanswer =>
      exact Or.inr ⟨old, .completeProcessed old.job.id, reply, hsteps,
        by rw [Task.operation?, hwas], rfl, hanswer⟩
    | looked _ _ _ hnext => rcases hnext with hnext | hnext | hnext <;> cases hnext

theorem not_announces_again {k n : Nat} {task : Task} (hsteps : e.Steps k n task)
    (hphase : task.phase = .announcing) (id : Int) : ¬ e.after.Announces k n id := by
  obtain ⟨p, -, ⟨hrests, -⟩ | ⟨next, hleads, hafter⟩⟩ := hsteps.cases
  · rcases hrests with ⟨hrunning, -⟩ | hended
    · rw [hphase] at hrunning
      cases hrunning
    · rw [hphase] at hended
      cases hended
  · rw [hphase] at hleads
    rintro ⟨task', htask', hagain, -⟩
    rw [hafter] at htask'
    cases hleads with
    | looked _ _ hwaits => rcases hwaits with hwaits | hwaits <;> cases hwaits
    | succeeded _ hears => cases hears
    | condemned _ _ _ hears => cases hears
    | putOff _ _ _ _ hears => cases hears
    | announced =>
      cases htask'
      cases hagain

end Occurrence

/-! ## The stages of a job -/

/-- How often it has been told that a job is done. -/
def told (history : List (Occurrence σ)) (id : Int) : Nat :=
  (announcements history).countP (·.2.id == id)

theorem announcements_snoc (history : List (Occurrence σ)) (e : Occurrence σ) :
    announcements (history ++ [e]) = announcements history ++ e.announced?.toList :=
  Run.filterMap_snoc _ history e

/-- Where a job stands on its way to being told of. A job that somebody is about to tell of is completed
and stays so. -/
inductive Stage (history : List (Occurrence σ)) (w : World σ) (id : Int) : Prop where
  | untold (silent : told history id = 0) (nobody : ∀ k n, ¬ w.Announces k n id)
  | telling (k n : Nat) (silent : told history id = 0)
      (closed : w.tables.standing id = some Status.completed.name)
      (only : ∀ k' n', w.Announces k' n' id → k' = k ∧ n' = n)
  | done (once : told history id = 1)
      (closed : w.tables.standing id = some Status.completed.name)
      (nobody : ∀ k n, ¬ w.Announces k n id)

variable {history : List (Occurrence σ)} {e : Occurrence σ} {id : Int}

/-- What a processor has told is what its tasks told, behind a turn if it was so before. -/
theorem notifications_snoc {k : Nat} (h : e.before.notifications k =
      ((announcements history).filter (·.1 == k)).map fun a => Processor.completion a.2) :
    e.after.notifications k =
      ((announcements (history ++ [e])).filter (·.1 == k)).map fun a => Processor.completion a.2 := by
  rw [e.after_notifications, h, announcements_snoc, List.filter_append, List.map_append]

/-- A turn tells of a job if one of those who are about to takes its step. -/
theorem told_snoc (history : List (Occurrence σ)) (e : Occurrence σ) (id : Int) :
    told (history ++ [e]) id = told history id ∨
      told (history ++ [e]) id = told history id + 1 ∧
        ∃ k n task, e.Steps k n task ∧ task.phase = .announcing ∧ task.job.id = id := by
  rw [told, announcements_snoc, List.countP_append]
  cases h : e.announced? with
  | none => exact Or.inl rfl
  | some told =>
    obtain ⟨n, task, hsteps, hphase, hjob⟩ := Occurrence.announced?_spec h
    rw [Option.toList_some, List.countP_singleton]
    split
    · next hid =>
      rw [← hjob] at hid
      exact Or.inr ⟨rfl, told.1, n, task, hsteps, hphase, beq_iff_eq.mp hid⟩
    · exact Or.inl rfl

/-- A completed row stays completed as long as its job is owned: there is no holder to give another
verdict, or the same one again. -/
theorem Owned.completed_stays (howned : Owned e.before id) (ho : e.before.tables.Ordered)
    (hturn : e.act.leavesVerdicts = true)
    (hclosed : e.before.tables.standing id = some Status.completed.name) :
    e.after.tables.standing id = some Status.completed.name ∧
      ∀ k n, e.after.Announces k n id → e.before.Announces k n id := by
  have hnobody : ∀ k n verdict, ¬ e.Decides k n id verdict := by
    intro k n verdict hdecides
    have hprocessing := howned.processing k n hdecides.holds
    rw [hclosed] at hprocessing
    exact absurd hprocessing (by decide)
  refine ⟨?_, fun k n hafter => ?_⟩
  · by_contra hmoves
    have hfinal : Status.completed ∈ closedStatuses := by decide
    obtain ⟨k, n, hdecides⟩ := Occurrence.decides_of_moved ho hturn hfinal hclosed hmoves
    exact hnobody k n _ hdecides
  · exact (Occurrence.announces_before hafter).resolve_right (hnobody k n _)

theorem Occurrence.Decides.unique {k n k' n' : Nat} {verdict verdict' : Option String}
    (h : e.Decides k n id verdict) (h' : e.Decides k' n' id verdict') : k' = k ∧ n' = n := by
  obtain ⟨_, _, _, hsteps, -⟩ := h
  obtain ⟨_, _, _, hsteps', -⟩ := h'
  exact hsteps.unique hsteps'

theorem Stage.next (h : Stage history e.before id) (howned : Owned e.before id)
    (ho : e.before.tables.Ordered) (hturn : e.act.leavesVerdicts = true) :
    Stage (history ++ [e]) e.after id := by
  cases h with
  | untold silent nobody =>
    have hsilent : told (history ++ [e]) id = 0 := by
      rcases told_snoc history e id with hsame | ⟨-, k, n, task, hsteps, hphase, hid⟩
      · exact hsame.trans silent
      · exact absurd ⟨task, hsteps.2, hphase, hid⟩ (nobody k n)
    have hdecides : ∀ k n, e.after.Announces k n id →
        e.Decides k n id (some Status.completed.name) := fun k n hafter =>
      (Occurrence.announces_before hafter).resolve_left (nobody k n)
    by_cases hsome : ∃ k n, e.after.Announces k n id
    · obtain ⟨k, n, hafter⟩ := hsome
      exact .telling k n hsilent (hdecides k n hafter).carried_out fun k' n' hafter' =>
        (hdecides k n hafter).unique (hdecides k' n' hafter')
    · exact .untold hsilent fun k n hafter => hsome ⟨k, n, hafter⟩
  | telling k n silent closed only =>
    obtain ⟨hclosed, hold⟩ := howned.completed_stays ho hturn closed
    rcases told_snoc history e id with hsame | ⟨hmore, k', n', task, hsteps, hphase, hid⟩
    · exact .telling k n (hsame.trans silent) hclosed fun k' n' hafter =>
        only k' n' (hold k' n' hafter)
    · -- the one task that was about to has told, and nobody else is
      refine .done (by rw [hmore, silent]) hclosed fun k'' n'' hafter => ?_
      obtain ⟨rfl, rfl⟩ := only k' n' ⟨task, hsteps.2, hphase, hid⟩
      obtain ⟨rfl, rfl⟩ := only k'' n'' (hold k'' n'' hafter)
      exact Occurrence.not_announces_again hsteps hphase id hafter
  | done once closed nobody =>
    obtain ⟨hclosed, hold⟩ := howned.completed_stays ho hturn closed
    have honce : told (history ++ [e]) id = 1 := by
      rcases told_snoc history e id with hsame | ⟨-, k, n, task, hsteps, hphase, hid⟩
      · exact hsame.trans once
      · exact absurd ⟨task, hsteps.2, hphase, hid⟩ (nobody k n)
    exact .done honce hclosed fun k n hafter => nobody k n (hold k n hafter)

/-! ## Runs -/

/-- Every job that nobody has been robbed of is in one of the stages, and processors have told what their
tasks told. -/
structure Reported (history : List (Occurrence σ)) (w : World σ) : Prop where
  undisputed : Undisputed history w
  stage : ∀ id, (∃ e ∈ history, e.Robs id) ∨ Stage history w id
  notifications : ∀ k, w.notifications k =
    ((announcements history).filter (·.1 == k)).map fun a => Processor.completion a.2

theorem Reported.start : Reported [] (World.empty : World σ) where
  undisputed := Undisputed.start
  stage _ := by
    refine Or.inr (.untold rfl ?_)
    rintro k n ⟨task, htask, -⟩
    cases htask
  notifications _ := rfl

theorem Reported.next (h : Reported history e.before) (hturn : e.act.leavesVerdicts = true) :
    Reported (history ++ [e]) e.after where
  undisputed := h.undisputed.next hturn
  stage id := by
    rcases h.stage id with ⟨r, hr, hrobs⟩ | hstage
    · exact Or.inl ⟨r, List.mem_append_left _ hr, hrobs⟩
    · rcases h.undisputed.owned id with ⟨r, hr, hrobs⟩ | howned
      · exact Or.inl ⟨r, List.mem_append_left _ hr, hrobs⟩
      · exact Or.inr (hstage.next howned h.undisputed.ordered hturn)
  notifications k := notifications_snoc (h.notifications k)

theorem reported_run (turns : List (Turn σ)) (hturns : ∀ turn ∈ turns, turn.leavesVerdicts = true) :
    Reported (World.empty.occurrences turns) (World.empty.actAll turns) :=
  Run.invariant Reported.start
    (fun _ w turn hturn h => Reported.next (e := ⟨w, turn⟩) h hturn) turns hturns

/-- **One holder, told once.** In every run in which verdicts are left to the tasks, and for every job
that no pass over stuck jobs has taken from a task holding it: there is one task at most between its
claim of the job and its verdict on it, and it has been told at most once that the job is done. What a
processor has told is what its tasks told, in that order. -/
theorem one_holder_told_once (turns : List (Turn σ))
    (hturns : ∀ turn ∈ turns, turn.leavesVerdicts = true) :
    (∀ id, (∀ e ∈ World.empty.occurrences turns, ¬ e.Robs id) →
      (∀ k n k' n', (World.empty.actAll turns).Holds k n id → (World.empty.actAll turns).Holds k' n' id →
        k = k' ∧ n = n') ∧
      told (World.empty.occurrences turns) id ≤ 1) ∧
    ∀ k, (World.empty.actAll turns).notifications k =
      ((announcements (World.empty.occurrences turns)).filter (·.1 == k)).map fun a =>
        Processor.completion a.2 := by
  have hall := reported_run turns hturns
  refine ⟨fun id hrobs => ⟨?_, ?_⟩, hall.notifications⟩
  · rcases hall.undisputed.owned id with ⟨r, hr, hrob⟩ | howned
    · exact absurd hrob (hrobs r hr)
    · exact howned.alone
  · rcases hall.stage id with ⟨r, hr, hrob⟩ | hstage
    · exact absurd hrob (hrobs r hr)
    · cases hstage <;> omega

/-- A worker is lost after its claim, and the reaper of another one takes the job back. The other worker
cannot read the ledger, calls the handler, records the job when it tries, and tells that it is done. -/
def takenOver : List (Turn Unit) :=
  let worker : Action Unit :=
    .launch ProcessorConfig.standard
      (Registry.empty.register "a" (.immediate fun _ _ s => (.done, s))) .standard ()
  [.quiet 0 worker, .quiet 0 worker,
   .quiet 0 (.enqueue "a"),
   .quiet 0 (.act 0 .claim),
   .quiet 0 (.act 0 (.step 0 0)),
   .quiet 0 (.act 0 (.lose 0)),
   .quiet 1 (.act 1 (.rescue Span.zero)),
   .quiet 1 (.act 1 .claim),
   { Turn.quiet 1 (.act 1 (.step 0 0)) with faults := [true] },
   .quiet 1 (.act 1 (.step 0 0)),
   .quiet 1 (.act 1 (.step 0 0)),
   .quiet 1 (.act 1 (.step 0 0)),
   .quiet 2 (.act 1 (.step 0 0)),
   .quiet 3 (.act 1 (.rescue Span.zero))]

theorem one_holder_told_once_takenOver :
    (∀ e ∈ World.empty.occurrences takenOver, ¬ e.Robs 1) ∧
    (∀ k n k' n', (World.empty.actAll takenOver).Holds k n 1 →
      (World.empty.actAll takenOver).Holds k' n' 1 → k = k' ∧ n = n') ∧
    told (World.empty.occurrences takenOver) 1 ≤ 1 ∧
    ((World.empty.actAll takenOver).notifications 0, (World.empty.actAll takenOver).notifications 1) =
      ([], [⟨none, Notification.jobCompleted, "a"⟩]) := by
  have hrobs : ∀ e ∈ World.empty.occurrences takenOver, ¬ e.Robs 1 := by
    have hidle : ∀ e ∈ World.empty.occurrences takenOver, e.operation?.any Operation.reclaims = true →
        ∀ p ∈ e.before.processors, ∀ task ∈ p.tasks, task.phase.holds = true → task.job.id ≠ 1 := by
      decide
    exact fun e he => Occurrence.not_robs (hidle e he)
  obtain ⟨hjob, -⟩ := one_holder_told_once takenOver (by decide)
  obtain ⟨halone, htold⟩ := hjob 1 hrobs
  exact ⟨hrobs, halone, htold, by decide⟩

end DurableJobs
