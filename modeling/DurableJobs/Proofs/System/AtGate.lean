import DurableJobs.Proofs.Admission.Desk
import DurableJobs.Proofs.System.Service

/-!
# Tasks at the gate

A processor keeps a list of its tasks and a limiter keeps a list of its askers, and nothing but the way
they are moved keeps the two together. Here they are shown to agree: a task that is queued, and no other,
is among those who wait, and a task has a permit from the moment it is admitted until it releases it
(`Processor.Attended`). So a look at the gate always answers, and turns nobody away before the processor
is cancelled (`Occurrence.turned_away`).
-/

set_option autoImplicit false

namespace DurableJobs

namespace Admission

variable {ι κ : Type} [DecidableEq ι]

/-- Whether somebody waits, and whether it has a permit. -/
def Limiter.seat (limiter : Limiter ι κ) (asker : ι) : Bool × Bool :=
  ((limiter.waiter? asker).isSome, (limiter.permit? asker).isSome)

/-- How an answer leaves the asker. -/
def Answer.seat : Answer → Bool × Bool
  | .granted => (false, true)
  | .waiting => (true, false)
  | .denied _ => (false, false)

/-- Who asks for nothing new may wait and work already. -/
theorem Fresh.of_none {limiter : Limiter ι κ} {act : Act ι κ} (h : act.newcomer? = none) :
    Fresh limiter act := fun _ hasker => by
  rw [h] at hasker
  cases hasker

variable [DecidableEq κ] {desk after : Desk ι κ} {act : Act ι κ} {reply : Reply} {asker : ι}

namespace Step

theorem seat_of_other (h : Step desk act reply after) (hfresh : Fresh desk.limiter act)
    (hother : act.asker? ≠ some asker) : after.limiter.seat asker = desk.limiter.seat asker := by
  obtain ⟨hwaits, hworks⟩ := h.others hfresh hother
  rw [Limiter.seat, Limiter.seat, hwaits, hworks]

/-- A look leaves its asker as it answers, and denies nobody before a cancellation has been raised. -/
theorem seat_of_look {answer : Answer} (h : Step desk act (.looked (some answer)) after)
    (hfresh : Fresh desk.limiter act) (hasker : act.asker? = some asker)
    (hpermit : desk.limiter.permit? asker = none) :
    after.limiter.seat asker = answer.seat ∧
      ∀ denial, answer = .denied denial → ∃ cancellation, cancellation ∈ desk.limiter.raised := by
  generalize hreply : Reply.looked (some answer) = reply at h
  cases h with
  | @looked _ waiter presented gate outcome presents there hlooks =>
    cases hreply
    cases presents.asker?.symm.trans hasker
    rw [Limiter.seat, (presents.shown hfresh).waiter?_settle, (presents.shown hfresh).permit?_settle,
      if_pos rfl, hpermit]
    have hspec := gate.looks waiter.asker waiter.stage
      (decide (waiter.cancellation ∈ desk.limiter.raised)) desk.now
    rw [hlooks] at hspec
    generalize hraised : decide (waiter.cancellation ∈ desk.limiter.raised) = raised at hspec
    generalize waiter.stage = stage at hspec
    cases hspec with
    | turnedAway => exact ⟨by simp [Next.wait?, Answer.seat], fun _ _ => ⟨_, of_decide_eq_true hraised⟩⟩
    | withoutToken | queued | unassigned => exact ⟨by simp [Next.wait?, Answer.seat], nofun⟩
    | entered | collected => exact ⟨by simp [Next.wait?, Answer.seat], nofun⟩
  | _ => cases hreply

theorem raised_eq (h : Step desk act reply after) (hact : ∀ cancellation, act ≠ .cancel cancellation) :
    after.limiter.raised = desk.limiter.raised := by
  cases h with
  | looked presents =>
    rw [Limiter.raised_settle]
    cases presents <;> rfl
  | abandoned => exact Limiter.raised_settle _
  | cancelled cancellation => exact absurd rfl (hact cancellation)
  | released | polledInVain | abandonedInVain | releasedInVain | registered | passed => rfl

theorem waiter?_abandon (h : Step desk (.abandon asker) reply after) :
    after.limiter.waiter? asker = none ∧ after.limiter.permit? asker = desk.limiter.permit? asker := by
  generalize hact : Act.abandon asker = act at h
  cases h with
  | abandoned found =>
    cases hact
    exact ⟨(Limiter.waiter?_settle found _ _).trans (if_pos rfl),
      (Limiter.permit?_settle _ _).trans (if_neg fun h => nomatch h.1)⟩
  | abandonedInVain absent =>
    cases hact
    exact ⟨absent, rfl⟩
  | looked presents =>
    subst hact
    cases presents
  | _ => cases hact

theorem permit?_release (h : Step desk (.release asker) reply after) :
    after.limiter.permit? asker = none ∧ after.limiter.waiter? asker = desk.limiter.waiter? asker := by
  generalize hact : Act.release asker = act at h
  cases h with
  | released =>
    cases hact
    exact ⟨(Limiter.permit?_handBack _ _).trans (if_pos rfl), rfl⟩
  | releasedInVain absent =>
    cases hact
    exact ⟨absent, rfl⟩
  | looked presents =>
    subst hact
    cases presents
  | _ => cases hact

end Step

end Admission

open Admission

variable {σ : Type}

/-- Whether a task waits at the gate, and whether it has a permit. -/
def Phase.seat : Phase → Bool × Bool
  | .checking | .confirming | .asking | .ended => (false, false)
  | .queued => (true, false)
  | .admitted | .running | .completing | .announcing | .archiving _ | .burying _
  | .rescheduling _ _ | .releasing => (false, true)

theorem seat_afterLook (answer : Answer) : (Processor.afterLook answer).seat = answer.seat := by
  cases answer <;> rfl

namespace Processor

/-- What the task with a number should have at the gate. -/
def seat (p : Processor σ) (n : Nat) : Bool × Bool := ((p.task? n).map (·.phase.seat)).getD (false, false)

/-- The limiter of a processor at a reading of its clock. -/
def desk (p : Processor σ) (now : Nat) : Desk Nat Unit := ⟨p.limiter, now⟩

/-- The limiter knows of the tasks what they know of themselves. -/
structure Attended (p : Processor σ) : Prop where
  numbered : p.Numbered
  placed : p.limiter.Placed
  seats : ∀ n, p.limiter.seat n = p.seat n

theorem seat_of_task? {p : Processor σ} {n : Nat} {task : Task} (h : p.task? n = some task) :
    p.seat n = task.phase.seat := by
  rw [seat, h]
  rfl

theorem seat_of_tasks {p q : Processor σ} (h : q.tasks = p.tasks) (n : Nat) : q.seat n = p.seat n := by
  rw [seat, seat, task?_of_tasks h]

theorem seat_moveTo {p : Processor σ} {n : Nat} {task : Task} (h : p.task? n = some task) (phase : Phase)
    (m : Nat) : (p.moveTo n phase).seat m = if m = n then phase.seat else p.seat m := by
  rw [seat, moveTo_task?]
  split
  · split
    · next hended =>
      rw [hended]
      rfl
    · rw [h]
      rfl
  · rfl

@[simp] theorem moveTo_limiter (p : Processor σ) (n : Nat) (phase : Phase) :
    (p.moveTo n phase).limiter = p.limiter := by
  unfold moveTo
  split <;> rfl

end Processor

/-- The next step of the task is a look at the gate, or gives its permit back. -/
def Phase.atGate : Phase → Bool
  | .asking | .queued | .releasing => true
  | _ => false

/-- Away from the gate a task keeps what it has there. -/
theorem Leads.seat_eq {p : Processor σ} {job : Job} {now : Instant}
    {reply? : Option (Except StoreError Store.Reply)} {before after : Phase}
    (h : Leads p job now reply? before after) (hgate : before.atGate = false) :
    after.seat = before.seat := by
  cases h with
  | looked _ _ hwaits => rcases hwaits with rfl | rfl <;> cases hgate
  | succeeded _ hears => cases before <;> first | rfl | cases hears
  | condemned _ _ _ hears => cases before <;> first | rfl | cases hears
  | putOff _ _ _ _ hears => cases before <;> first | rfl | cases hears
  | released => cases hgate
  | _ => rfl

namespace Processor

theorem step_limiter (p : Processor σ) {task : Task} (moment : Moment) (draw : Nat) (s : Store.Session)
    (hgate : task.phase.atGate = false) : (p.step task moment draw s).1.limiter = p.limiter := by
  obtain ⟨n, job, phase⟩ := task
  unfold step
  cases phase <;> dsimp only
  case checking =>
    rcases (Store.isProcessed job.id).execute s with ⟨_ | _ | _, _⟩ <;> simp
  case admitted =>
    rcases p.registry.dispatch (JobContext.ofJob job) job.payload p.collaborators with ⟨_ | _, _⟩ <;>
      simp [finish]
  case running =>
    rcases p.registry.resume (JobContext.ofJob job) p.collaborators with _ | ⟨_, _⟩ <;> simp [finish]
  case completing =>
    rcases (Store.completeProcessed job.id moment.wall).execute s with ⟨_ | _, _⟩ <;> simp
  case archiving message =>
    rcases (Store.archive job message moment.wall).execute s with ⟨_ | _, _⟩ <;> simp
  case asking | queued | releasing => cases hgate
  all_goals simp

namespace Attended

variable {p : Processor σ}

theorem of_same (h : p.Attended) {q : Processor σ} (hnumbered : q.Numbered)
    (hlimiter : q.limiter = p.limiter) (hseats : ∀ n, q.seat n = p.seat n) : q.Attended where
  numbered := hnumbered
  placed := hlimiter ▸ h.placed
  seats n := by rw [hlimiter, hseats, h.seats]

/-- A task goes on, and the gate does not notice. -/
theorem of_moved (h : p.Attended) {n : Nat} {task : Task} (hn : p.task? n = some task)
    {q : Processor σ} {phase : Phase} (htasks : q.tasks = p.tasks) (hnext : q.nextTask = p.nextTask)
    (hlimiter : q.limiter = p.limiter) (hseat : phase.seat = task.phase.seat) :
    (q.moveTo n phase).Attended := by
  refine h.of_same ((h.numbered.of_tasks htasks hnext).moveTo n phase)
    ((moveTo_limiter q n phase).trans hlimiter) fun m => ?_
  rw [seat_moveTo ((task?_of_tasks htasks n).trans hn)]
  split
  · next hm => rw [hm, hseat, seat_of_task? hn]
  · exact seat_of_tasks htasks m

theorem deskStep (h : p.Attended) (now : Nat) (act : Act Nat Unit) :
    Step (p.desk now) act ((p.desk now).act act).1 ((p.desk now).after act) :=
  Desk.step h.placed act

/-- A task goes on behind an act of its own at the gate. -/
theorem of_act (h : p.Attended) {n : Nat} {task : Task} (hn : p.task? n = some task) (now : Nat)
    {act : Act Nat Unit} (hasker : act.asker? = some n) (hfresh : Fresh p.limiter act) {phase : Phase}
    (hseat : ((p.desk now).after act).limiter.seat n = phase.seat) :
    ({ p with limiter := ((p.desk now).after act).limiter }.moveTo n phase).Attended := by
  have hnumbered : ({ p with limiter := ((p.desk now).after act).limiter } : Processor σ).Numbered :=
    h.numbered.of_tasks rfl rfl
  refine ⟨hnumbered.moveTo n phase, ?_, fun m => ?_⟩
  · rw [moveTo_limiter]
    exact (h.deskStep now act).placed hfresh h.placed
  · have hsame : ({ p with limiter := ((p.desk now).after act).limiter } : Processor σ).task? n =
        some task := hn
    rw [moveTo_limiter, seat_moveTo hsame]
    -- the task itself is as its act has left it, and no act touches another asker
    split
    · next hm => rw [hm, hseat]
    · next hm =>
      have hother : act.asker? ≠ some m := fun hsome => hm (Option.some.inj (hsome.symm.trans hasker))
      exact ((h.deskStep now act).seat_of_other hfresh hother).trans (h.seats m)

theorem absent (h : p.Attended) {n : Nat} (hseat : p.seat n = (false, false)) :
    p.limiter.waiter? n = none ∧ p.limiter.permit? n = none := by
  have hlimiter := (h.seats n).trans hseat
  rw [Limiter.seat] at hlimiter
  obtain ⟨hwaits, hworks⟩ := Prod.mk.inj hlimiter
  exact ⟨Option.isNone_iff_eq_none.mp (Option.isSome_eq_false_iff.mp hwaits),
    Option.isNone_iff_eq_none.mp (Option.isSome_eq_false_iff.mp hworks)⟩

/-- Asking leaves a task as it is answered, and denies nobody before the cancellation. -/
theorem asking (h : p.Attended) {n : Nat} {task : Task} (hn : p.task? n = some task)
    (hphase : task.phase = .asking) (jobType : String) (now : Nat) :
    Fresh p.limiter (.acquire n jobType ()) ∧
    (p.limiter.acquire n jobType () now).2.seat n = (p.limiter.acquire n jobType () now).1.seat ∧
      ∀ denial, (p.limiter.acquire n jobType () now).1 = .denied denial → () ∈ p.limiter.raised := by
  have habsent := h.absent ((seat_of_task? hn).trans (by rw [hphase]; rfl))
  have hfresh : Fresh p.limiter (.acquire n jobType ()) := fun asker hasker => by
    cases hasker
    exact habsent
  obtain ⟨hseat, hdenied⟩ :=
    Step.seat_of_look (h.deskStep now (.acquire n jobType ())) hfresh rfl habsent.2
  refine ⟨hfresh, hseat, fun denial hdenial => ?_⟩
  obtain ⟨_, hraised⟩ := hdenied denial hdenial
  exact hraised

/-- A task that is queued is answered when it looks. -/
theorem queued (h : p.Attended) {n : Nat} {task : Task} (hn : p.task? n = some task)
    (hphase : task.phase = .queued) (now : Nat) :
    ∃ answer, (p.limiter.poll n now).1 = some answer ∧ (p.limiter.poll n now).2.seat n = answer.seat ∧
      ∀ denial, answer = .denied denial → () ∈ p.limiter.raised := by
  have hlimiter := (h.seats n).trans ((seat_of_task? hn).trans (by rw [hphase]; rfl : _ = (true, false)))
  obtain ⟨hwaits, hworks⟩ := Prod.mk.inj hlimiter
  obtain ⟨w, hw⟩ := Option.isSome_iff_exists.mp hwaits
  have hpermit := Option.isNone_iff_eq_none.mp (Option.isSome_eq_false_iff.mp hworks)
  have hanswer : (p.limiter.poll n now).1 = some (p.limiter.look w now).1 := by
    rw [Limiter.poll, hw]
  have hstep := h.deskStep now (.poll n)
  have hreply : ((p.desk now).act (.poll n)).1 = .looked (some (p.limiter.look w now).1) :=
    congrArg Reply.looked hanswer
  rw [hreply] at hstep
  obtain ⟨hseat, hdenied⟩ := hstep.seat_of_look (.of_none rfl) rfl hpermit
  refine ⟨_, hanswer, hseat, fun denial hdenial => ?_⟩
  obtain ⟨_, hraised⟩ := hdenied denial hdenial
  exact hraised

/-- **A step keeps the two lists together.** -/
theorem step (h : p.Attended) {n : Nat} {task : Task} (hn : p.task? n = some task) (moment : Moment)
    (draw : Nat) (s : Store.Session) : (p.step task moment draw s).1.Attended := by
  obtain rfl := number_of_task? hn
  -- away from the gate the limiter and the seat stay; at the gate the step is an act of the task's own
  cases hgate : task.phase.atGate with
  | false =>
    have hlimiter := p.step_limiter moment draw s hgate
    rcases p.step_spec task moment draw s with ⟨-, hsame⟩ | ⟨phase, q, hleads, hmoved, htasks, hnext⟩
    · rw [hsame]
      exact h
    · rw [hmoved, moveTo_limiter] at hlimiter
      rw [hmoved]
      exact h.of_moved hn htasks hnext hlimiter (hleads.seat_eq hgate)
  | true =>
    obtain ⟨n, job, phase⟩ := task
    dsimp only at hn
    cases phase with
    | asking =>
      obtain ⟨hfresh, hseat, -⟩ := h.asking hn rfl job.jobType moment.ticks
      exact h.of_act hn moment.ticks rfl hfresh (hseat.trans (seat_afterLook _).symm)
    | queued =>
      obtain ⟨answer, hanswer, hseat, -⟩ := h.queued hn rfl moment.ticks
      rw [Processor.step]
      dsimp only
      rw [hanswer]
      exact h.of_act hn moment.ticks rfl (.of_none rfl : Fresh _ (.poll n))
        (hseat.trans (seat_afterLook _).symm)
    | releasing =>
      have hreleased := (h.deskStep moment.ticks (.release n)).permit?_release
      have hseat := (h.seats n).trans (seat_of_task? hn)
      rw [Processor.step]
      dsimp only
      refine h.of_act hn moment.ticks rfl (.of_none rfl : Fresh _ (.release n)) ?_
      rw [Limiter.seat, hreleased.1, hreleased.2]
      exact Prod.ext (Prod.mk.inj hseat).1 rfl
    | _ => cases hgate

theorem lose (h : p.Attended) (n : Nat) : (p.lose n).Attended := by
  have habandon := h.deskStep 0 (.abandon n)
  have hplaced := habandon.placed (.of_none rfl) h.placed
  have hrelease := Desk.step hplaced (.release n)
  refine ⟨Numbered.moveTo (h.numbered.of_tasks rfl rfl) n .ended, ?_, fun m => ?_⟩
  · rw [Processor.lose, moveTo_limiter]
    exact hrelease.placed (.of_none rfl) hplaced
  · rw [seat, lose_task?, Processor.lose, moveTo_limiter]
    -- who is lost gives up its place in a queue first, and then its permit
    split
    · next hm =>
      subst hm
      change (((p.desk 0).after (.abandon m)).after (.release m)).limiter.seat m = _
      rw [Limiter.seat, hrelease.permit?_release.2, hrelease.permit?_release.1, habandon.waiter?_abandon.1]
      rfl
    · next hm =>
      have hother : some n ≠ some m := fun hsame => hm (Option.some.inj hsame).symm
      exact (hrelease.seat_of_other (.of_none rfl) hother).trans
        ((habandon.seat_of_other (.of_none rfl) hother).trans (h.seats m))

theorem spawn (h : p.Attended) (job : Job) : (p.spawn job).Attended := by
  refine h.of_same (h.numbered.spawn job) rfl fun n => ?_
  rw [seat, seat, spawn_task?]
  cases p.task? n with
  | some task => rfl
  | none => by_cases hn : n = p.nextTask <;> simp [hn, Phase.seat]

/-- **Whatever a processor does**, its tasks are at the gate where they think they are. -/
theorem act (h : p.Attended) (deed : Deed σ) (moment : Moment) (s : Store.Session) :
    (p.act deed moment s).1.Attended := by
  cases deed with
  | produce job attempts =>
    rw [Processor.act, Producer.enqueue]
    rcases (Store.enqueue job attempts moment.wall).execute s with ⟨_ | _, _⟩
    · exact h
    · exact h.of_same h.numbered rfl fun _ => rfl
  | rescue | disturb => exact h.of_same h.numbered rfl fun _ => rfl
  | claim =>
    rw [Processor.act, Processor.claim]
    split
    · exact h
    · rcases (Store.claimNext moment.wall).execute s with ⟨_ | _ | job, _⟩
      · exact h
      · exact h
      · exact h.spawn job
  | step n draw =>
    simp only [Processor.act]
    cases hn : p.task? n with
    | none => exact h
    | some task => exact h.step hn moment draw s
  | lose n => exact h.lose n
  | cancel =>
    have hplaced := (h.deskStep 0 (.cancel ())).placed (.of_none rfl) h.placed
    exact ⟨h.numbered, hplaced, h.seats⟩
  | register jobType profile => exact ⟨h.numbered, h.placed.register jobType profile, h.seats⟩

theorem step_raised (h : p.Attended) (task : Task) (moment : Moment) (draw : Nat) (s : Store.Session) :
    (p.step task moment draw s).1.limiter.raised = p.limiter.raised := by
  cases hgate : task.phase.atGate with
  | false => rw [p.step_limiter moment draw s hgate]
  | true =>
    obtain ⟨n, job, phase⟩ := task
    cases phase with
    | asking =>
      rw [Processor.step]
      dsimp only
      rw [moveTo_limiter]
      exact (h.deskStep moment.ticks (.acquire n job.jobType ())).raised_eq (by simp)
    | queued =>
      rw [Processor.step]
      dsimp only
      rw [moveTo_limiter]
      exact (h.deskStep moment.ticks (.poll n)).raised_eq (by simp)
    | releasing =>
      rw [Processor.step]
      dsimp only
      rw [moveTo_limiter]
      exact (h.deskStep moment.ticks (.release n)).raised_eq (by simp)
    | _ => cases hgate

/-- Nobody but a cancellation raises one. -/
theorem act_raised (h : p.Attended) (deed : Deed σ) (moment : Moment) (s : Store.Session)
    (hraised : () ∈ (p.act deed moment s).1.limiter.raised) : () ∈ p.limiter.raised ∨ deed = .cancel := by
  cases deed with
  | cancel => exact Or.inr rfl
  | produce job attempts =>
    rw [Processor.act, Producer.enqueue] at hraised
    rcases hcall : (Store.enqueue job attempts moment.wall).execute s with ⟨_ | _, _⟩ <;>
      rw [hcall] at hraised <;> exact Or.inl hraised
  | claim =>
    rw [Processor.act, Processor.claim] at hraised
    split at hraised
    · exact Or.inl hraised
    · rcases hcall : (Store.claimNext moment.wall).execute s with ⟨_ | _ | job, _⟩ <;>
        rw [hcall] at hraised <;> exact Or.inl hraised
  | step n draw =>
    simp only [Processor.act] at hraised
    cases hn : p.task? n with
    | none =>
      rw [hn] at hraised
      exact Or.inl hraised
    | some task =>
      rw [hn] at hraised
      exact Or.inl (h.step_raised task moment draw s ▸ hraised)
  | lose n =>
    have habandon := h.deskStep 0 (.abandon n)
    have hrelease := Desk.step (habandon.placed (.of_none rfl) h.placed) (.release n)
    rw [Processor.act, Processor.lose, moveTo_limiter] at hraised
    exact Or.inl (habandon.raised_eq (by simp) ▸ hrelease.raised_eq (by simp) ▸ hraised)
  | rescue | register | disturb => exact Or.inl hraised

end Attended

end Processor

/-! ## The gates of a system -/

/-- A new processor gets a new limiter. -/
def Turn.BuildsGates (turn : Turn σ) : Prop :=
  ∀ config registry limiter collaborators,
    turn.action = .launch config registry limiter collaborators →
      ∃ profiles fallback, limiter = .ofProfiles profiles fallback

theorem Processor.create_attended (config : ProcessorConfig) (registry : Registry σ)
    (profiles : List (String × Profile)) (fallback : Profile) (collaborators : σ) :
    (Processor.create config registry (.ofProfiles profiles fallback) collaborators).Attended where
  numbered _ h := nomatch h
  placed := (Orderly.opening profiles fallback 0).placed
  seats n := by
    have horderly : Orderly [] (Desk.opening profiles fallback 0 : Desk Nat Unit) := .opening _ _ _
    obtain ⟨hwaits, hworks⟩ : _ ∧ (Desk.opening profiles fallback 0).limiter.permit? n = none :=
      horderly.stranger (List.forall_mem_nil _)
    change Limiter.seat (Desk.opening profiles fallback 0).limiter n = (false, false)
    rw [Limiter.seat, hwaits, hworks]
    rfl

/-- Every processor and its limiter agree, and the limiter knows of no cancellation that has not been
made. -/
structure Staffed (history : List (Occurrence σ)) (w : World σ) : Prop where
  attended : ∀ (k : Nat) p, w.processors[k]? = some p → p.Attended
  raised : ∀ (k : Nat) p, w.processors[k]? = some p → () ∈ p.limiter.raised →
    ∃ c ∈ history, c.act.action = .act k .cancel

namespace Staffed

variable {history : List (Occurrence σ)} {e : Occurrence σ}

theorem attended_next (h : Staffed history e.before) (hturn : e.act.BuildsGates) {k : Nat}
    {q : Processor σ} (hq : e.after.processors[k]? = some q) : q.Attended := by
  rcases Occurrence.processor_before hq
    with hold | ⟨-, config, registry, limiter, collaborators, haction, rfl⟩ | ⟨p, deed, hp, -, rfl⟩
  · exact h.attended k q hold
  · obtain ⟨profiles, fallback, rfl⟩ := hturn _ _ _ _ haction
    exact Processor.create_attended config registry profiles fallback collaborators
  · exact (h.attended k p hp).act deed _ _

theorem raised_next (h : Staffed history e.before) (hturn : e.act.BuildsGates) {k : Nat}
    {q : Processor σ} (hq : e.after.processors[k]? = some q) (hraised : () ∈ q.limiter.raised) :
    ∃ c ∈ history ++ [e], c.act.action = .act k .cancel := by
  have later : (∃ c ∈ history, c.act.action = .act k .cancel) →
      ∃ c ∈ history ++ [e], c.act.action = .act k .cancel := fun ⟨c, hc, hcancel⟩ =>
    ⟨c, List.mem_append_left _ hc, hcancel⟩
  rcases Occurrence.processor_before hq
    with hold | ⟨-, config, registry, limiter, collaborators, haction, rfl⟩ | ⟨p, deed, hp, haction, rfl⟩
  · exact later (h.raised k q hold hraised)
  · obtain ⟨profiles, fallback, rfl⟩ := hturn _ _ _ _ haction
    have hnone : (Limiter.ofProfiles profiles fallback : Limiter Nat Unit).raised = [] :=
      @Limiter.ofProfiles_rule Nat Unit (fun limiter => limiter.raised = []) profiles fallback rfl
        fun _ _ _ h => h
    rw [Processor.create, hnone] at hraised
    cases hraised
  · rcases (h.attended k p hp).act_raised deed _ _ hraised with hold | rfl
    · exact later (h.raised k p hp hold)
    · exact ⟨e, by simp, haction⟩

theorem lasts : World.Lasts (fun turn : Turn σ => turn.BuildsGates) Staffed where
  alike _ w w' halike h :=
    { attended := fun k q hq => by
        obtain ⟨p, hp, htasks, hnext, hlimiter⟩ := halike.processor hq
        have hattended := h.attended k p hp
        exact hattended.of_same (hattended.numbered.of_tasks htasks hnext) hlimiter
          fun n => Processor.seat_of_tasks htasks n
      raised := fun k q hq hraised => by
        obtain ⟨p, hp, -, -, hlimiter⟩ := halike.processor hq
        exact h.raised k p hp (hlimiter ▸ hraised) }
  start :=
    { attended := fun _ _ h => nomatch h
      raised := fun _ _ h => nomatch h }
  next _ _ hturn h :=
    { attended := fun _ _ => h.attended_next hturn
      raised := fun _ _ => h.raised_next hturn }

end Staffed

/-- **Nobody is turned away before the cancellation**: a task that leaves at the gate belongs to a
processor that has been cancelled. -/
theorem Occurrence.turned_away {history : List (Occurrence σ)} {e : Occurrence σ}
    (h : Staffed history e.before) {k n : Nat} {task : Task} (hsteps : e.Steps k n task)
    (hwaits : task.phase = .asking ∨ task.phase = .queued) (hgone : e.after.task? k n = none) :
    ∃ c ∈ history, c.act.action = .act k .cancel := by
  obtain ⟨⟨draw, haction⟩, htask⟩ := hsteps
  obtain ⟨p, hp, hn⟩ := Option.bind_eq_some_iff.mp htask
  have hattended := h.attended k p hp
  have hnumber := Processor.number_of_task? hn
  refine h.raised k p hp ?_
  rw [after_task? haction hp, if_pos rfl] at hgone
  simp only [Processor.act, hn] at hgone
  -- whoever is gone behind a look has been denied
  have denied : ∀ (limiter : Limiter Nat Unit) answer,
      (({ p with limiter } : Processor σ).moveTo task.number (Processor.afterLook answer)).task? n = none →
      ∃ denial, answer = .denied denial := by
    intro limiter answer hnone
    have hsame : ({ p with limiter } : Processor σ).task? n = some task := hn
    rw [Processor.moveTo_task?, if_pos hnumber.symm, hnumber, hsame] at hnone
    cases answer with
    | denied denial => exact ⟨denial, rfl⟩
    | granted | waiting => cases hnone
  rcases hwaits with hphase | hphase
  · rw [Processor.step, hphase] at hgone
    obtain ⟨denial, hdenial⟩ := denied _ _ hgone
    rw [hnumber] at hdenial
    exact (hattended.asking hn hphase task.job.jobType e.act.moment.ticks).2.2 denial hdenial
  · obtain ⟨answer, hanswer, -, hdenied⟩ := hattended.queued hn hphase e.act.moment.ticks
    rw [Processor.step, hphase] at hgone
    dsimp only at hgone
    rw [hnumber, hanswer] at hgone
    rw [← hnumber] at hgone
    obtain ⟨denial, hdenial⟩ := denied _ answer (by rw [hnumber] at hgone ⊢; exact hgone)
    exact hdenied denial hdenial

end DurableJobs
