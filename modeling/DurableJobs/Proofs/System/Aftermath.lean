import DurableJobs.Proofs.Store.InCalendar
import DurableJobs.Proofs.System.Tasks

/-!
# Behind a failure

Once the handler of a task has failed, nothing is waited for any more: there is a verdict to be written, a
second one if the store refuses the first, and the permit to be given back. A task that is followed on from
there has ended after three steps (`follow_ends`), whatever the clock reads at each of them, whatever the
tables hold, and whichever statements the database fails. None of the answers on its way says that the
calendar has been left (`follow_inCalendar`), as a task never asks for a pass by age.
-/

set_option autoImplicit false

namespace DurableJobs

open Store (Reply Session)

variable {σ : Type} {p : Processor σ} {n : Nat} {task : Task}

/-- How many steps a task is from its end at most, if it is on its way from a failure. -/
def Phase.stepsLeft? : Phase → Option Nat
  | .archiving _ => some 3
  | .burying _ | .rescheduling _ _ => some 2
  | .releasing => some 1
  | _ => none

/-- What a step of a task meets: the clock, the draw of a jittered delay, and the store. -/
structure Encounter where
  moment : Moment
  draw : Nat
  session : Session

/-- A task followed by itself: what the store answers it, and the processor it leaves. Between two of its
steps the clock may have moved and the store may be another. -/
def Processor.follow (p : Processor σ) (n : Nat) :
    List Encounter → List (Except StoreError Reply) × Processor σ
  | [] => ([], p)
  | ⟨moment, draw, session⟩ :: later =>
      match p.task? n with
      | none => ([], p)
      | some task =>
          let (answers, last) := (p.step task moment draw session).1.follow n later
          ((session.reply? moment.wall (task.operation? moment.wall)).toList ++ answers, last)

/-- A task that hears an outcome is not on its way from a failure yet. -/
theorem Processor.stepsLeft?_of_hears {job : Job} {phase : Phase} {outcome : HandlerOutcome}
    (hears : p.outcome? job phase = some outcome) : phase.stepsLeft? = none := by
  unfold Processor.outcome? at hears
  split at hears
  · rfl
  · rfl
  · cases hears

theorem Processor.Rests.stepsLeft? (h : p.Rests task) : task.phase.stepsLeft? = none := by
  rcases h with ⟨hphase, -⟩ | hphase <;> rw [hphase] <;> rfl

/-- A step behind a failure is one towards the end. -/
theorem Leads.closer {job : Job} {now : Instant} {reply? : Option (Except StoreError Reply)}
    {phase next : Phase} {left : Nat} (h : Leads p job now reply? phase next)
    (hleft : phase.stepsLeft? = some left) :
    next = .ended ∨ ∃ fewer < left, next.stepsLeft? = some fewer := by
  cases h with
  | archived | unarchived | buried | rescheduled | released =>
    cases hleft
    simp [Phase.stepsLeft?]
  | found | missed | confirmed | called | recorded | unrecorded | announced => cases hleft
  | looked _ _ hwaits => rcases hwaits with rfl | rfl <;> cases hleft
  -- these ways start where the handler is heard, before the failure
  | succeeded _ hears | condemned _ _ _ hears | putOff _ _ _ _ hears =>
    cases hleft.symm.trans (p.stepsLeft?_of_hears hears)

namespace Processor

/-- A step behind a failure ends the task, or leaves it closer to its end. -/
theorem step_closer {left : Nat} (h : p.task? n = some task)
    (hleft : task.phase.stepsLeft? = some left) (moment : Moment) (draw : Nat) (s : Session) :
    (p.step task moment draw s).1.task? n = none ∨
      ∃ task' fewer, (p.step task moment draw s).1.task? n = some task' ∧ fewer < left ∧
        task'.phase.stepsLeft? = some fewer := by
  rcases p.step_spec task moment draw s with ⟨hrests, -⟩ | ⟨phase, q, hleads, hstep, htasks, -⟩
  · cases hleft.symm.trans hrests.stepsLeft?
  · rw [hstep, moveTo_task?, number_of_task? h, if_pos rfl, task?_of_tasks htasks, h]
    rcases hleads.closer hleft with rfl | ⟨fewer, hless, hfewer⟩
    · exact Or.inl rfl
    · refine Or.inr ⟨{ task with phase }, fewer, if_neg fun hended => ?_, hless, hfewer⟩
      rw [hended] at hfewer
      cases hfewer

theorem follow_of_none (h : p.task? n = none) (encounters : List Encounter) :
    p.follow n encounters = ([], p) := by
  cases encounters with
  | nil => rfl
  | cons => simp only [follow, h]

/-- **A failure is dealt with in three steps.** -/
theorem follow_ends {left : Nat} {encounters : List Encounter} (h : p.task? n = some task)
    (hleft : task.phase.stepsLeft? = some left) (hlong : left ≤ encounters.length) :
    (p.follow n encounters).2.task? n = none := by
  -- the steps left bound those to come: each step spends one at least
  induction encounters generalizing p task left with
  | nil =>
    obtain rfl := Nat.le_zero.mp hlong
    cases hphase : task.phase <;> rw [hphase] at hleft <;> cases hleft
  | cons encounter later ih =>
    rw [List.length_cons] at hlong
    simp only [follow, h]
    rcases step_closer h hleft encounter.moment encounter.draw encounter.session with
      hgone | ⟨task', fewer, hfound, hless, hfewer⟩
    · rw [follow_of_none hgone]
      exact hgone
    · exact ih hfound hfewer (by omega)

theorem finish_of_failure {outcome : HandlerOutcome} {failure : Failure} (h : p.task? n = some task)
    (hfails : outcome.failure? = some failure) (now : Instant) (draw : Nat) :
    ∃ task' left, (p.finish task outcome now draw).task? n = some task' ∧ left ≤ 3 ∧
      task'.phase.stepsLeft? = some left := by
  obtain rfl := number_of_task? h
  have hmoved : ∀ phase metrics, phase ≠ .ended →
      ({ p with metrics }.moveTo task.number phase).task? task.number = some { task with phase } := by
    intro phase metrics hgoes
    rw [moveTo_task?, if_pos rfl, if_neg hgoes]
    exact congrArg (Option.map ({ · with phase })) h
  rw [finish, settle, hfails]
  cases hmove : p.config.deadLetters.shouldMove task.job now with
  | true => exact ⟨_, 3, hmoved _ _ nofun, Nat.le_refl _, rfl⟩
  | false => exact ⟨_, 2, hmoved _ _ nofun, by decide, rfl⟩

/-- The outcome is handled in the step that hears it, so a task that hears of a failure ends at its fourth
step from there. -/
theorem follow_ends_of_failure {outcome : HandlerOutcome} {failure : Failure}
    {encounters : List Encounter} (h : p.task? n = some task)
    (hears : p.outcome? task.job task.phase = some outcome) (hfails : outcome.failure? = some failure)
    (hlong : 4 ≤ encounters.length) : (p.follow n encounters).2.task? n = none := by
  cases encounters with
  | nil => cases hlong
  | cons encounter later =>
    rw [List.length_cons] at hlong
    obtain ⟨collaborators, hstep⟩ := step_of_outcome hears encounter.moment encounter.draw encounter.session
    obtain ⟨task', left, hfound, hfew, hleft⟩ :=
      finish_of_failure (p := { p with collaborators }) h hfails encounter.moment.wall encounter.draw
    simp only [follow, h]
    rw [hstep]
    exact follow_ends hfound hleft (by omega)

end Processor

/-- A task never asks for a pass by age. -/
theorem Task.operation?_ne_reclaimStuck {now : Instant} {operation : Store.Operation}
    (h : task.operation? now = some operation) (age : Int) : operation ≠ .reclaimStuck age := by
  unfold Task.operation? at h
  split at h <;> cases h <;> exact nofun

/-- **No answer on the way of a task** says that the calendar has been left. -/
theorem Processor.follow_inCalendar (p : Processor σ) (n : Nat) (encounters : List Encounter) :
    .error .calendarOverflow ∉ (p.follow n encounters).1 := by
  induction encounters generalizing p with
  | nil => exact List.not_mem_nil
  | cons encounter later ih =>
    rw [follow]
    split
    · exact List.not_mem_nil
    · next task _ =>
      refine fun hmem => (List.mem_append.mp hmem).elim (fun hasked => ?_) (ih _)
      obtain ⟨operation, hoperation, hanswer⟩ := Option.map_eq_some_iff.mp (Option.mem_toList.mp hasked)
      exact Store.Call.InCalendar.operation (Task.operation?_ne_reclaimStuck hoperation) _ _ hanswer

end DurableJobs
