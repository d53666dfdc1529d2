import DurableJobs.Processor.Runtime
import DurableJobs.Proofs.System.Service

/-!
# What a runtime does is a run

A `Runtime` decides which task goes on next and when the loop claims; the service leaves all that open.
Here every schedule of the runtime is shown to be a run of the service with one processor, so what holds
of all runs holds of what is carried out. The proofs follow the recursion of the scheduler: serving one
call is one beat, and so is each look of the loop and each of its claims.
-/

set_option autoImplicit false

namespace DurableJobs

variable {σ : Type}

/-- A run of the service leads from one state to another. -/
def Service.Reaches (k : Nat) (s s' : Service σ) : Prop := ∃ beats, s.actAll k beats = s'

namespace Service.Reaches

variable {k : Nat} {s s' s'' : Service σ}

theorem refl (s : Service σ) : Reaches k s s := ⟨[], rfl⟩

theorem trans (h : Reaches k s s') (h' : Reaches k s' s'') : Reaches k s s'' := by
  obtain ⟨first, rfl⟩ := h
  obtain ⟨rest, rfl⟩ := h'
  exact ⟨first ++ rest, Run.final_append s first rest⟩

theorem beat (beat : Beat σ) (h : s.act k beat = s') : Reaches k s s' := ⟨[beat], h⟩

end Service.Reaches

open Service (Reaches)

namespace Runtime

/-- A runtime as a service of one processor, whose loop and producers stand somewhere. -/
def service (r : Runtime σ) (loop : Loop) (untold : List Job) : Service σ :=
  ⟨⟨r.tables, [r.processor]⟩, loop, untold⟩

variable {loop : Loop} {untold : List Job}

/-- What is done on the store is a beat, if it is a deed of the processor. -/
theorem withStore_reaches {α : Type} (r : Runtime σ)
    {run : Moment → Processor σ → Store.Session → α × Processor σ × Store.Session} (deed : Deed σ)
    (h : (run r.tick.1 r.processor ⟨r.tables, []⟩).2 = r.processor.act deed r.tick.1 ⟨r.tables, []⟩) :
    Reaches 0 (r.service loop untold) ((r.withStore run).2.service loop untold) := by
  refine .beat ⟨.other (.act 0 deed), r.tick.1, []⟩ ?_
  simp only [Service.act, Beat.turn, service, World.act, List.getElem?_cons_zero, ← h, List.set_cons_zero]
  rfl

theorem stepTask_reaches {r : Runtime σ} {task : Task} (h : r.processor.task? task.number = some task) :
    Reaches 0 (r.service loop untold) ((r.stepTask task).service loop untold) := by
  refine r.withStore_reaches (.step task.number r.tick.1.ticks) ?_
  rw [Processor.act, h]

/-! ## Tasks -/

theorem goOn_reaches (n : Nat) (fuel : Nat) (r : Runtime σ) :
    Reaches 0 (r.service loop untold) ((goOn n fuel r).2.service loop untold) := by
  induction fuel generalizing r with
  | zero => exact .refl _
  | succ fuel ih =>
    rw [goOn]
    cases htask : r.processor.task? n with
    | none => exact .refl _
    | some task =>
      dsimp only
      split
      · exact .refl _
      · split
        · refine Reaches.trans (stepTask_reaches ?_) (ih _)
          rw [Processor.number_of_task? htask, htask]
        · exact .refl _

theorem resume_reaches (r : Runtime σ) (n : Nat) :
    Reaches 0 (r.service loop untold) ((r.resume n).service loop untold) := by
  rw [resume]
  have hgoes : Reaches 0 (r.service loop untold) _ := goOn_reaches n phases r
  generalize goOn n phases r = went at hgoes
  obtain ⟨_ | _, after⟩ := went <;> exact hgoes

theorem resumeAll_reaches (tasks : List Task) (r : Runtime σ) :
    Reaches 0 (r.service loop untold)
      ((tasks.foldl (fun r task => r.resume task.number) r).service loop untold) := by
  induction tasks generalizing r with
  | nil => exact .refl _
  | cons task tasks ih => exact (r.resume_reaches task.number).trans (ih _)

theorem serve_reaches (r : Runtime σ) (n : Nat) :
    Reaches 0 (r.service loop untold) ((r.serve n).service loop untold) := by
  rw [serve]
  cases htask : r.processor.task? n with
  | none => exact .refl _
  | some task =>
    have hsame : r.processor.task? task.number = some task := by
      rw [Processor.number_of_task? htask, htask]
    exact ((stepTask_reaches hsame).trans (resume_reaches _ n)).trans (resumeAll_reaches _ _)

theorem settleFor_reaches (fuel : Nat) (r : Runtime σ) :
    Reaches 0 (r.service loop untold) ((settleFor fuel r).service loop untold) := by
  induction fuel generalizing r with
  | zero => exact .refl _
  | succ fuel ih =>
    rw [settleFor]
    split
    · exact .refl _
    · next number ready _ => exact (serve_reaches { r with ready } number).trans (ih _)

theorem settle_reaches (r : Runtime σ) :
    Reaches 0 (r.service loop untold) (r.settle.service loop untold) :=
  (resumeAll_reaches _ r).trans (settleFor_reaches _ _)

theorem drainFor_reaches (fuel deadline : Nat) (r : Runtime σ) :
    Reaches 0 (r.service loop untold) ((drainFor fuel deadline r).2.service loop untold) := by
  induction fuel generalizing r with
  | zero => exact .refl _
  | succ fuel ih =>
    rw [drainFor]
    refine r.settle_reaches.trans ?_
    split
    · exact .refl _
    · split
      · split
        · exact .refl _
        · next wake _ _ =>
          exact ih { r.settle with clock := r.settle.clock.after (wake - r.settle.clock.ticks) }
      · exact .refl _

theorem drain_reaches (r : Runtime σ) :
    Reaches 0 (r.service loop untold) (r.drain.2.service loop untold) :=
  drainFor_reaches _ _ r

/-! ## The loop -/

/-- A loop that does not go on waits. -/
theorem stops (r : Runtime σ) {claimed : Nat} (h : r.processor.goesOn claimed = false) :
    Reaches 0 (r.service (.looking claimed) untold) (r.service .waiting untold) := by
  refine .beat ⟨.own .look, r.clock, []⟩ ?_
  simp [Service.act, service, Service.stir, h]

/-- Where the loop stands behind a claim. -/
def behindClaim (claimed : Nat) : Processor.ClaimResult → Loop
  | .claimed _ => .looking (claimed + 1)
  | .stopped => .waiting

/-- What is asked of the store is answered, and done. -/
theorem withStore_service {α : Type} (r : Runtime σ)
    (run : Moment → Processor σ → Store.Session → α × Processor σ × Store.Session) {answer : α}
    {p : Processor σ} {session : Store.Session}
    (h : run r.tick.1 r.processor ⟨r.tables, []⟩ = (answer, p, session)) :
    (r.withStore run).1 = answer ∧ ∀ loop untold,
      (r.withStore run).2.service loop untold = ⟨⟨session.tables, [p]⟩, loop, untold⟩ := by
  have hstore : r.withStore run = ((run r.tick.1 r.processor ⟨r.tables, []⟩).1,
      { r.tick.2 with
        processor := (run r.tick.1 r.processor ⟨r.tables, []⟩).2.1,
        tables := (run r.tick.1 r.processor ⟨r.tables, []⟩).2.2.tables }) := rfl
  rw [hstore, h]
  exact ⟨rfl, fun _ _ => rfl⟩

/-- A try to claim is a look and, if the processor has not been cancelled, a claim. -/
theorem claim_reaches (r : Runtime σ) {claimed : Nat}
    (hbatch : claimed < r.processor.config.claimBatchSize) {result : Processor.ClaimResult}
    {after : Runtime σ}
    (h : r.withStore (fun moment processor session => processor.claim moment session) = (result, after)) :
    Reaches 0 (r.service (.looking claimed) untold)
      (after.service (behindClaim claimed result) untold) := by
  rcases hclaim : r.processor.claim r.tick.1 ⟨r.tables, []⟩ with ⟨answer, p, session⟩
  obtain ⟨hresult, hservice⟩ := withStore_service r
    (fun moment processor session => processor.claim moment session) hclaim
  rw [h] at hresult hservice
  obtain rfl : result = answer := hresult
  rw [hservice]
  rw [Processor.claim_eq_take] at hclaim
  cases hcancelled : r.processor.cancelled with
  | true =>
    rw [hcancelled, if_pos rfl] at hclaim
    cases hclaim
    refine r.stops ?_
    rw [Processor.goesOn, hcancelled, Bool.not_true, Bool.and_false]
  | false =>
    rw [hcancelled, if_neg Bool.false_ne_true] at hclaim
    have hgoes : r.processor.goesOn claimed = true := by
      rw [Processor.goesOn, hcancelled, decide_eq_true hbatch]
      rfl
    have hlook : (r.service (.looking claimed) untold).act 0 ⟨.own .look, r.clock, []⟩ =
        r.service (.claiming claimed) untold := by
      simp [Service.act, service, Service.stir, hgoes]
    refine (Reaches.beat _ hlook).trans (.beat ⟨.own .claim, r.tick.1, []⟩ ?_)
    simp only [Service.act, service, List.getElem?_cons_zero, Service.stir, hclaim]
    cases result <;> rfl

theorem claimFor_reaches (fuel claimed : Nat) (askers : List Asker) (r : Runtime σ) :
    ∃ loop, Reaches 0 (r.service (.looking claimed) untold)
      ((claimFor fuel claimed askers r).2.service loop untold) := by
  induction fuel generalizing claimed askers r with
  | zero => exact ⟨_, .refl _⟩
  | succ fuel ih =>
    cases askers with
    | nil => exact ⟨_, .refl _⟩
    | cons asker askers =>
      cases asker with
      | task number =>
        rw [claimFor]
        obtain ⟨loop, hrest⟩ := ih claimed
          (askers ++ ({ r with ready := [] }.serve number).ready.map .task)
          { { r with ready := [] }.serve number with ready := [] }
        exact ⟨loop, (serve_reaches { r with ready := [] } number).trans hrest⟩
      | claimer =>
        rw [claimFor]
        split
        · next hfull =>
          refine ⟨.waiting, r.stops ?_⟩
          rw [Processor.goesOn, decide_eq_false (Nat.not_lt.mpr hfull), Bool.false_and]
        · next hroom =>
          rcases hstore : r.withStore (fun moment processor session => processor.claim moment session)
            with ⟨result, after⟩
          have hclaim : Reaches 0 (r.service (.looking claimed) untold) _ :=
            r.claim_reaches (Nat.lt_of_not_le hroom) hstore
          dsimp only
          cases result with
          | stopped => exact ⟨_, hclaim⟩
          | claimed job =>
            dsimp only
            split
            · exact ⟨_, hclaim⟩
            · obtain ⟨loop, hrest⟩ := ih (claimed + 1) _ after
              exact ⟨loop, hclaim.trans hrest⟩

/-- **A pass** of the runtime is a pass of the loop, with steps of tasks in between. -/
theorem processNext_reaches (r : Runtime σ) :
    ∃ loop, Reaches 0 (r.service (.looking 0) untold) (r.processNext.2.service loop untold) :=
  claimFor_reaches _ 0 _ r

/-- A turn of the processor begins with a wake-up or a tick. -/
theorem takeWakeUp_reaches (r : Runtime σ) :
    Reaches 0 (r.service .waiting untold) (r.takeWakeUp.2.service (.looking 0) untold) := by
  cases hwoken : r.processor.wakeUp with
  | true =>
    refine .beat ⟨.own .wake, r.clock, []⟩ ?_
    simp [Service.act, service, Service.stir, hwoken, World.put, takeWakeUp]
  | false =>
    refine .beat ⟨.own .tick, r.clock, []⟩ ?_
    have hsame : r.takeWakeUp.2 = r := by rw [takeWakeUp, ← hwoken]
    rw [hsame]
    simp [Service.act, service, Service.stir]

/-- **A turn of the processor** is a run of the service. -/
theorem turn_reaches (r : Runtime σ) :
    ∃ loop, Reaches 0 (r.service .waiting untold) ((r.turn .processor).service loop untold) := by
  obtain ⟨loop, hpass⟩ := r.takeWakeUp.2.processNext_reaches
  exact ⟨loop, (r.takeWakeUp_reaches.trans hpass).trans (drain_reaches _)⟩

/-- So is what a producer does, a cancellation, and a pass of the reaper. -/
theorem produce_reaches (r : Runtime σ) (job : NewJob) :
    Reaches 0 (r.service loop untold) ((r.produce job).2.service loop untold) :=
  r.settle_reaches.trans (r.settle.withStore_reaches (.produce job r.defaultMaxAttempts) rfl)

theorem cancel_reaches (r : Runtime σ) :
    Reaches 0 (r.service loop untold) ((r.mapProcessor (·.cancel)).service loop untold) :=
  .beat ⟨.other (.act 0 .cancel), r.clock, []⟩ rfl

theorem rescue_reaches (r : Runtime σ) :
    Reaches 0 (r.service loop untold) (r.rescue.2.service loop untold) :=
  r.settle_reaches.trans (r.settle.withStore_reaches (.rescue r.zombieTimeout) rfl)

end Runtime

end DurableJobs
