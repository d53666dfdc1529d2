import DurableJobs.Proofs.System.Abandoned
import DurableJobs.Proofs.System.AtGate
import DurableJobs.Proofs.System.Attempts

/-!
# How claims end

A claim starts a task, and the task has the job until it lets go of it: because it has written down what
is to become of the job, because it has been turned away at the gate, because its last write has failed,
or because it has been lost. Leaving the last two aside, `Course` says how far a claim has come: its task
is at work and has written nothing, or it has written once, or it has been turned away and has neither
written nor called its handler.

As long as nothing is written the row belongs to the claim. It is in processing, so nobody claims or
cancels it, and nobody else has a verdict on it; what is left are the passes of a reaper (`Reserved`).
-/

set_option autoImplicit false

namespace DurableJobs

open Store (Operation Reply Row)

variable {σ : Type}

/-- The next write ends the task, whatever the store answers. -/
def Phase.lastWrite : Phase → Bool
  | .confirming | .completing | .burying _ | .rescheduling _ _ => true
  | _ => false

namespace Occurrence

/-- A claim is answered with a job, and a task starts. -/
structure Starts (e : Occurrence σ) (k n : Nat) (job : Job) : Prop where
  action : e.act.action = .act k .claim
  claimed : e.claimed? = some job
  number : ∃ p, e.before.processors[k]? = some p ∧ n = p.nextTask

/-- A task is lost. -/
def loses (e : Occurrence σ) (k n : Nat) : Bool :=
  match e.act.action with
  | .act j (.lose m) => j == k && m == n
  | _ => false

/-- The store fails the last write of a task. -/
def Unwritten (e : Occurrence σ) (k n : Nat) : Prop :=
  ∃ task error, e.Steps k n task ∧ task.phase.lastWrite = true ∧ e.reply? = some (.error error)

end Occurrence

/-! ## What is said of a task in a stretch of a run -/

/-- The task gives no verdict. -/
def Silent (history : List (Occurrence σ)) (k n : Nat) : Prop :=
  ∀ c ∈ history, ∀ id verdict, ¬ c.Decides k n id verdict

/-- The task does not call its handler. -/
def Uncalled (history : List (Occurrence σ)) (k n : Nat) : Prop :=
  ∀ c ∈ history, ∀ task, ¬ c.Dispatches k n task

/-- The task is not lost, and its last write does not fail. -/
def Spared (history : List (Occurrence σ)) (k n : Nat) : Prop :=
  ∀ c ∈ history, c.loses k n = false ∧ ¬ c.Unwritten k n

/-- The task gives a verdict, and it is the only one. -/
def DecidedOnce (history : List (Occurrence σ)) (k n : Nat) (id : Int) (verdict : Option String) : Prop :=
  ∃ before c after, history = before ++ c :: after ∧ c.Decides k n id verdict ∧
    Silent (before ++ after) k n

/-- The job is abandoned at admission, behind a cancellation of its processor. -/
def CutOff (history : List (Occurrence σ)) (k : Nat) (job : Job) : Prop :=
  ∃ before c after, history = before ++ c :: after ∧ c.Abandons k job ∧
    ∃ x ∈ before, x.act.action = .act k .cancel

variable {history : List (Occurrence σ)} {e x : Occurrence σ} {k n : Nat} {job : Job}

theorem Silent.snoc (h : Silent history k n) (hx : ∀ id verdict, ¬ x.Decides k n id verdict) :
    Silent (history ++ [x]) k n :=
  Run.forall_mem_snoc h hx

theorem Uncalled.snoc (h : Uncalled history k n) (hx : ∀ task, ¬ x.Dispatches k n task) :
    Uncalled (history ++ [x]) k n :=
  Run.forall_mem_snoc h hx

theorem CutOff.snoc (h : CutOff history k job) : CutOff (history ++ [x]) k job := by
  obtain ⟨before, c, after, rfl, habandons, hcancel⟩ := h
  exact ⟨before, c, after ++ [x], by simp, habandons, hcancel⟩

theorem DecidedOnce.snoc {id : Int} {verdict : Option String} (h : DecidedOnce history k n id verdict)
    (hx : ∀ id verdict, ¬ x.Decides k n id verdict) : DecidedOnce (history ++ [x]) k n id verdict := by
  obtain ⟨before, c, after, rfl, hdecides, hsilent⟩ := h
  refine ⟨before, c, after ++ [x], by simp, hdecides, ?_⟩
  rw [← List.append_assoc]
  exact hsilent.snoc hx

namespace Occurrence

/-- Only a task that is there decides, and only one that is there calls its handler. -/
theorem not_decides_of_none (h : e.before.task? k n = none) (id : Int) (verdict : Option String) :
    ¬ e.Decides k n id verdict := by
  rintro ⟨task, _, _, ⟨-, htask⟩, -⟩
  rw [h] at htask
  cases htask

theorem not_dispatches_of_none (h : e.before.task? k n = none) (task : Task) :
    ¬ e.Dispatches k n task := by
  rintro ⟨⟨-, htask⟩, -⟩
  rw [h] at htask
  cases htask

/-! ## How a task lets go of its job -/

/-- Where the store answers all writes, no last write fails. -/
theorem not_unwritten (h : e.reply?.all (·.isOk) = true) : ¬ e.Unwritten k n := by
  rintro ⟨_, error, -, -, hreply⟩
  rw [hreply] at h
  cases h

theorem Steps.answered {task : Task} (h : e.Steps k n task) {operation : Operation}
    {verdict : Option String} (hop : task.operation? e.now = some operation)
    (hverdict : operation.verdict? = some (task.job.id, verdict)) :
    e.Decides k n task.job.id verdict ∨ ∃ error, e.reply? = some (.error error) := by
  have hreply : e.reply? = some ((operation.call e.now).execute e.session).1 := by
    rw [Occurrence.reply?, h.operation?, hop]
    rfl
  cases hanswer : ((operation.call e.now).execute e.session).1 with
  | error error => exact Or.inr ⟨error, hanswer ▸ hreply⟩
  | ok answer => exact Or.inl ⟨task, operation, answer, h, hop, hverdict, hanswer ▸ hreply⟩

/-- A task that makes its last write has decided, or the write has failed. -/
theorem Steps.wrote {task : Task} (h : e.Steps k n task) (hlast : task.phase.lastWrite = true) :
    (∃ verdict, e.Decides k n task.job.id verdict) ∨ e.Unwritten k n := by
  obtain ⟨operation, verdict, hop, hverdict⟩ : ∃ operation verdict,
      task.operation? e.now = some operation ∧ operation.verdict? = some (task.job.id, verdict) := by
    rw [Task.operation?]
    generalize task.phase = phase at hlast
    cases phase <;> first | exact ⟨_, _, rfl, rfl⟩ | cases hlast
  rcases h.answered hop hverdict with hdecides | ⟨error, herror⟩
  · exact Or.inl ⟨verdict, hdecides⟩
  · exact Or.inr ⟨task, error, h, hlast, herror⟩

/-- **A task lets go of its job** at the gate, by a verdict, or when its last write fails. -/
theorem Steps.lets_go {task : Task} (h : e.Steps k n task) (hholds : task.phase.holds = true)
    (hafter : ∀ task', e.after.task? k n = some task' → task'.phase.holds = false) :
    ((task.phase = .asking ∨ task.phase = .queued) ∧ e.after.task? k n = none) ∨
      (∃ verdict, e.Decides k n task.job.id verdict) ∨ e.Unwritten k n := by
  -- it cannot have rested, since it would still have its job then
  obtain ⟨p, -, ⟨-, hsame⟩ | ⟨phase, hleads, hnext⟩⟩ := h.cases
  · rw [hafter task hsame] at hholds
    cases hholds
  have hlets : phase.holds = false := by
    by_cases hended : phase = .ended
    · rw [hended]
      rfl
    · rw [if_neg hended] at hnext
      exact hafter _ hnext
  generalize hphase : task.phase = before at hleads hholds
  cases hleads with
  | looked _ _ hwaits hends =>
    rcases hends with rfl | rfl | rfl
    · cases hlets
    · cases hlets
    · exact Or.inl ⟨hwaits, hnext⟩
  | confirmed | recorded | unrecorded | buried | rescheduled =>
    exact Or.inr (h.wrote (by rw [hphase]; rfl))
  | archived message reply hreply =>
    have hop : task.operation? e.now = some (.archive task.job message) := by
      rw [Task.operation?, hphase]
    rcases h.answered hop rfl with hdecides | ⟨error, herror⟩
    · exact Or.inr (Or.inl ⟨none, hdecides⟩)
    · cases hreply.symm.trans herror
  | announced | released => cases hholds
  | _ => cases hlets

/-- A claim that is answered starts its task. -/
theorem Starts.spawned (h : e.Starts k n job) (hfree : e.before.task? k n = none) :
    e.after.task? k n = some ⟨n, job, .checking⟩ := by
  obtain ⟨haction, hclaimed, p, hp, rfl⟩ := h
  have hafter := after_task? (k := k) haction hp p.nextTask
  rw [World.task?_of_processor hp] at hfree
  rw [if_pos rfl, Processor.act, Processor.claim] at hafter
  unfold Occurrence.claimed? at hclaimed
  split at hclaimed
  · next job? hop hreply =>
    subst hclaimed
    rw [Occurrence.reply?, hop] at hreply
    simp only [Store.Session.reply?, Option.map_some, Operation.call, Store.Call.execute_map] at hreply
    rw [Occurrence.operation?, haction] at hop
    simp only [hp, Option.bind_some, Processor.operation?] at hop
    split at hop
    · cases hop
    · next hopen =>
      rw [if_neg hopen] at hafter
      have hnow : e.act.moment.wall = e.now := rfl
      rw [hnow] at hafter
      rcases hcall : (Store.claimNext e.now).execute e.session with ⟨error | _ | found, session⟩ <;>
        rw [hcall] at hafter hreply <;> cases hreply
      simp only [Processor.spawn_task?, hfree, Option.none_or, if_pos] at hafter
      exact hafter
  · cases hclaimed

end Occurrence

namespace Occurrence.Starts

theorem free (h : e.Starts k n job) (hstaffed : Staffed history e.before) :
    e.before.task? k n = none := by
  obtain ⟨p, hp, hn⟩ := h.number
  rw [World.task?_of_processor hp, Option.eq_none_iff_forall_not_mem]
  intro task htask
  have hlt := (hstaffed.attended k p hp).numbered n (by rw [Option.mem_def.mp htask]; rfl)
  omega

theorem known (h : e.Starts k n job) (hstaffed : Staffed history e.before) (hturn : e.act.BuildsGates) :
    ∃ p, e.after.processors[k]? = some p ∧ n < p.nextTask := by
  have hspawned := h.spawned (h.free hstaffed)
  obtain ⟨p, hp, -⟩ := h.number
  obtain ⟨q, hq, -⟩ := Occurrence.after_processor hp
  refine ⟨q, hq, (hstaffed.attended_next hturn hq).numbered n ?_⟩
  rw [← World.task?_of_processor hq, hspawned]
  rfl

end Occurrence.Starts

/-! ## The course of a claim -/

/-- How far a claim has come. `later` are the turns since, and `history` is all that there has been. -/
inductive Course (history later : List (Occurrence σ)) (k n : Nat) (job : Job) (w : World σ) : Prop where
  | working (task : Task) (found : w.task? k n = some task) (about : task.job = job)
      (holds : task.phase.holds = true) (silent : Silent later k n)
      (uncalled : Milestone.beforeCall task.phase = true → Uncalled later k n)
  | decided (verdict : Option String) (once : DecidedOnce later k n job.id verdict)
      (freed : ∀ id, ¬ w.Holds k n id)
  | turnedAway (gone : w.task? k n = none) (cut : CutOff history k job) (silent : Silent later k n)
      (uncalled : Uncalled later k n)

namespace Course

variable {later : List (Occurrence σ)} {w w' : World σ}

theorem alike (halike : w.Alike w') (h : Course history later k n job w) :
    Course history later k n job w' := by
  cases h with
  | working task found about holds silent uncalled =>
    exact .working task ((halike.task? k n).trans found) about holds silent uncalled
  | decided verdict once freed =>
    exact .decided verdict once fun id hheld => freed id ((halike.holds_iff k n id).mp hheld)
  | turnedAway gone cut silent uncalled =>
    exact .turnedAway ((halike.task? k n).trans gone) cut silent uncalled

theorem goes_on {task : Task} (found : x.after.task? k n = some task) (about : task.job = job)
    (holds : task.phase.holds = true) (silent : Silent later k n)
    (uncalled : Milestone.beforeCall task.phase = true → Uncalled later k n) :
    Course (history ++ [x]) (later ++ [x]) k n job x.after := by
  refine .working task found about holds (silent.snoc fun id verdict hdecides => ?_) fun hbefore =>
    (uncalled hbefore).snoc fun caller hdispatches => ?_
  · exact hdecides.lets_go task.job.id ⟨task, found, holds, rfl⟩
  · -- had it called its handler in this turn, it would be past its call
    have hbehind : Milestone.beforeCall task.phase = false :=
      Milestone.call.behind x k n caller hdispatches.1 (decide_eq_true hdispatches.2) task found
    rw [hbehind] at hbefore
    cases hbefore

/-- A task that lets go of its job in a turn has been turned away, or has decided. -/
theorem ends (hstaffed : Staffed history x.before) {task : Task} (hsteps : x.Steps k n task)
    (about : task.job = job) (holds : task.phase.holds = true) (silent : Silent later k n)
    (uncalled : Milestone.beforeCall task.phase = true → Uncalled later k n)
    (hwritten : ¬ x.Unwritten k n)
    (hafter : ∀ task', x.after.task? k n = some task' → task'.phase.holds = false) :
    Course (history ++ [x]) (later ++ [x]) k n job x.after := by
  rcases hsteps.lets_go holds hafter with ⟨hwaits, hgone⟩ | ⟨verdict, hdecides⟩ | hunwritten
  · have same : ∀ {task'}, x.Steps k n task' → task' = task := fun h =>
      Option.some.inj (h.2.symm.trans hsteps.2)
    have huncalled : Uncalled later k n := uncalled (by rcases hwaits with h | h <;> rw [h] <;> rfl)
    have hcancelled := Occurrence.turned_away hstaffed hsteps hwaits hgone
    refine .turnedAway hgone ⟨history, x, [], rfl, ⟨n, task, hsteps, hwaits, hgone, about⟩, hcancelled⟩
      (silent.snoc ?_) (huncalled.snoc ?_)
    · rintro id verdict ⟨task', operation, _, hsteps', hop, -⟩
      rw [same hsteps', Task.operation?] at hop
      rcases hwaits with h | h <;> rw [h] at hop <;> cases hop
    · rintro task' ⟨hsteps', hadmitted⟩
      rw [same hsteps'] at hadmitted
      rcases hwaits with h | h <;> rw [h] at hadmitted <;> cases hadmitted
  · refine .decided verdict ⟨later, x, [], rfl, about ▸ hdecides, ?_⟩ hdecides.lets_go
    rwa [List.append_nil]
  · exact absurd hunwritten hwritten

/-- **A turn** takes a claim further on its course. -/
theorem next (h : Course history later k n job x.before) (hstaffed : Staffed history x.before)
    (hnumber : ∃ p, x.before.processors[k]? = some p ∧ n < p.nextTask)
    (hspared : x.loses k n = false ∧ ¬ x.Unwritten k n) :
    Course (history ++ [x]) (later ++ [x]) k n job x.after := by
  obtain ⟨p, hp, hold⟩ := hnumber
  -- the number has been given out, so no new task gets it
  have known : ∀ q : Processor σ, x.before.processors[k]? = some q → n ≠ q.nextTask := by
    intro q hq
    cases hp.symm.trans hq
    exact Nat.ne_of_lt hold
  cases h with
  | working task found about holds silent uncalled =>
    have hfate := x.taskFate k n
    rw [found] at hfate
    generalize hafter : x.after.task? k n = after? at hfate
    cases hfate with
    | kept | rested => exact goes_on hafter about holds silent uncalled
    | moved _ _ phase hsteps _ hleads =>
      cases hphase : phase.holds with
      | true =>
        exact goes_on hafter about hphase silent fun hbefore =>
          uncalled (Milestone.call.ahead_of_leads _ _ _ _ _ _ hleads hbefore)
      | false =>
        refine ends hstaffed hsteps about holds silent uncalled hspared.2 fun task' htask' => ?_
        cases hafter.symm.trans htask'
        exact hphase
    | ended _ _ hsteps =>
      refine ends hstaffed hsteps about holds silent uncalled hspared.2 fun task' htask' => ?_
      cases hafter.symm.trans htask'
    | lost _ haction =>
      rw [Occurrence.loses, haction] at hspared
      simp at hspared
  | decided verdict once freed =>
    refine .decided verdict (once.snoc fun id _ hdecides => freed id hdecides.holds) fun id hheld => ?_
    rcases Occurrence.held_before hheld with hbefore | ⟨q, _, -, hq, hn, -⟩
    · exact freed id hbefore
    · exact known q hq hn
  | turnedAway gone cut silent uncalled =>
    refine .turnedAway ?_ cut.snoc (silent.snoc (Occurrence.not_decides_of_none gone))
      (uncalled.snoc (Occurrence.not_dispatches_of_none gone))
    have hfate := x.taskFate k n
    rw [gone] at hfate
    generalize x.after.task? k n = after? at hfate ⊢
    cases hfate with
    | kept => rfl
    | spawned q _ _ hq hn => exact absurd hn (known q hq)

theorem start (hstarts : x.Starts k n job) (hfree : x.before.task? k n = none) :
    Course (history ++ [x]) [] k n job x.after :=
  .working _ (hstarts.spawned hfree) rfl rfl (List.forall_mem_nil _) fun _ => List.forall_mem_nil _

end Course

/-! ## The row of a claim -/

/-- A row that nobody but a task has to do with. -/
structure Reserved (k n : Nat) (id : Int) (row : Row) (w : World σ) : Prop where
  row : w.tables.job? id = some row
  alone : ∀ k' n', w.Holds k' n' id → k' = k ∧ n' = n

namespace Reserved

variable {id : Int} {row : Row} {w w' : World σ}

theorem alike (halike : w.Alike w') (h : Reserved k n id row w) : Reserved k n id row w' where
  row := halike.tables ▸ h.row
  alone k' n' hheld := h.alone k' n' ((halike.holds_iff k' n' id).mp hheld)

/-- A row in processing stays as it is while its task is silent and no pass takes it back. -/
theorem next (h : Reserved k n id row x.before) (ho : x.before.tables.Ordered)
    (hturn : x.act.leavesVerdicts = true) (hprocessing : row.hasStatus .processing = true)
    (htaken : x.takesBack id = false) (hsilent : ∀ verdict, ¬ x.Decides k n id verdict) :
    Reserved k n id row x.after where
  row := by
    by_contra hchanges
    rcases x.tables_cases with ⟨-, hsame⟩ | ⟨operation, reply, hop, hreply, hchange⟩
    · exact hchanges (hsame ▸ h.row)
    have hfate := hchange.fate ho id
    rw [h.row] at hfate
    -- a row in processing is left by a pass or by a verdict, and the verdict would be its task's
    rcases hfate.left with hsame | ⟨hpending, -⟩ | ⟨-, olderThan, rfl⟩ | ⟨⟨verdict, hverdict⟩, answer, rfl⟩
    · exact hchanges hsame
    · cases Store.Row.hasStatus_unique hpending hprocessing
    · rw [Occurrence.takesBack, hop, h.row] at htaken
      exact hchanges (of_not_not fun hne => by simp [Operation.reclaims, Ne.symm hne] at htaken)
    · obtain ⟨k', n', hdecides⟩ := Occurrence.decides_of_verdict hturn hop hverdict hreply
      obtain ⟨rfl, rfl⟩ := h.alone k' n' hdecides.holds
      exact hsilent verdict hdecides
  alone k' n' hheld := by
    rcases Occurrence.held_before hheld with hbefore | ⟨p, found, haction, -, -, rfl, hreply⟩
    · exact h.alone k' n' hbefore
    · -- who claims now would have met a pending row
      have hpending := (Occurrence.claim_spec ho haction hreply).1
      rw [Store.Tables.standing, h.row] at hpending
      cases Store.hasStatus_of_status (Option.some.inj hpending) hprocessing

/-- Right behind its claim a row is the claim's, if nobody has been robbed of the job. -/
theorem start (hall : Undisputed history x.before) (hrobbed : ∀ c ∈ history, ¬ c.Robs job.id)
    (hstarts : x.Starts k n job) :
    ∃ row, x.before.tables.job? job.id = some row ∧
      Reserved k n job.id (row.claimed x.now) x.after := by
  obtain ⟨row, hbefore, -, hafter, -⟩ := Occurrence.claimed?_spec hall.ordered hstarts.claimed
  refine ⟨row, hbefore, hafter, fun k' n' hheld => ?_⟩
  have howned := (hall.owned job.id).resolve_left fun ⟨c, hc, hrobs⟩ => hrobbed c hc hrobs
  rcases Occurrence.held_before hheld with hold | ⟨q, _, haction, hq, hn, -⟩
  · have hprocessing := howned.processing k' n' hold
    rw [(Occurrence.claimed?_standing hall.ordered hstarts.claimed).1] at hprocessing
    exact absurd hprocessing (by decide)
  · obtain ⟨hstart, -, p, hp, rfl⟩ := hstarts
    cases hstart.symm.trans haction
    cases hp.symm.trans hq
    exact ⟨rfl, hn⟩

end Reserved

/-! ## All claims of a run -/

/-- Nobody but its task has a hand in the row of a claim: verdicts are left to the tasks, nobody has been
robbed of the job before the claim, and no pass takes it back behind it. -/
structure LeftAlone (earlier : List (Occurrence σ)) (e : Occurrence σ) (later : List (Occurrence σ))
    (id : Int) : Prop where
  verdicts : ∀ c ∈ earlier ++ e :: later, c.act.leavesVerdicts = true
  before : ∀ c ∈ earlier, ¬ c.Robs id
  since : ∀ c ∈ later, c.takesBack id = false

theorem LeftAlone.of_snoc {earlier later : List (Occurrence σ)} {id : Int}
    (h : LeftAlone earlier e (later ++ [x]) id) : LeftAlone earlier e later id where
  verdicts c hc := h.verdicts c (by simp only [List.mem_append, List.mem_cons] at hc ⊢; tauto)
  before := h.before
  since c hc := h.since c (List.mem_append_left _ hc)

/-- What has become of a claim since. -/
structure Followed (earlier : List (Occurrence σ)) (e : Occurrence σ) (later : List (Occurrence σ))
    (w : World σ) : Prop where
  known : ∀ k n job, e.Starts k n job → ∃ p, w.processors[k]? = some p ∧ n < p.nextTask
  course : ∀ k n job, e.Starts k n job → Spared later k n →
    Course (earlier ++ e :: later) later k n job w
  reserved : ∀ k n job, e.Starts k n job → LeftAlone earlier e later job.id → Silent later k n →
    ∃ row, e.before.tables.job? job.id = some row ∧ Reserved k n job.id (row.claimed e.now) w

theorem Undisputed.lasts (allowed : Turn σ → Prop) : World.Lasts allowed fun history w =>
    (∀ c ∈ history, c.act.leavesVerdicts = true) → Undisputed history w where
  alike _ _ _ halike h hturns :=
    { ordered := halike.tables ▸ (h hturns).ordered
      owned := fun id => ((h hturns).owned id).imp_right fun howned =>
        { processing := fun k n hheld =>
            halike.tables ▸ howned.processing k n ((halike.holds_iff k n id).mp hheld)
          alone := fun k n k' n' hheld hheld' =>
            howned.alone k n k' n' ((halike.holds_iff k n id).mp hheld)
              ((halike.holds_iff k' n' id).mp hheld') } }
  start _ := .start
  next _ e _ h hturns :=
    (h fun c hc => hturns c (List.mem_append_left _ hc)).next (hturns e (by simp))

/-- **What becomes of claims** in a run of the system. -/
theorem followed_lasts : World.Lasts (Turn.BuildsGates : Turn σ → Prop) fun history w =>
    (((∀ c ∈ history, c.act.leavesVerdicts = true) → Undisputed history w) ∧ Staffed history w) ∧
      ∀ earlier e later, history = earlier ++ e :: later → Followed earlier e later w := by
  refine ((Undisputed.lasts _).and Staffed.lasts).since (fun earlier e later _ _ halike h => ?_)
    (fun earlier e hturn hall => ?_) fun earlier e later x hturn hall h => ?_
  · refine ⟨fun k n job hstarts => ?_, fun k n job hstarts hspared => ?_,
      fun k n job hstarts halone hsilent => ?_⟩
    · obtain ⟨p, hp, hn⟩ := h.known k n job hstarts
      obtain ⟨q, hq, -, hnext, -⟩ := halike.symm.processor hp
      exact ⟨q, hq, hnext ▸ hn⟩
    · exact (h.course k n job hstarts hspared).alike halike
    · obtain ⟨row, hrow, hreserved⟩ := h.reserved k n job hstarts halone hsilent
      exact ⟨row, hrow, hreserved.alike halike⟩
  · refine ⟨fun k n job hstarts => hstarts.known hall.2 hturn,
      fun k n job hstarts _ => Course.start hstarts (hstarts.free hall.2),
      fun k n job hstarts halone _ => Reserved.start (hall.1 fun c hc => ?_) halone.before hstarts⟩
    exact halone.verdicts c (List.mem_append_left _ hc)
  · refine ⟨fun k n job hstarts => ?_, fun k n job hstarts hspared => ?_,
      fun k n job hstarts halone hsilent => ?_⟩
    · obtain ⟨p, hp, hn⟩ := h.known k n job hstarts
      obtain ⟨q, hq, hle⟩ := Occurrence.after_processor hp
      exact ⟨q, hq, Nat.lt_of_lt_of_le hn hle⟩
    · obtain ⟨hbefore, hnow⟩ := List.forall_mem_append.mp hspared
      have hcourse := (h.course k n job hstarts hbefore).next hall.2 (h.known k n job hstarts)
        (hnow x (by simp))
      rwa [List.append_assoc, List.cons_append] at hcourse
    · obtain ⟨hbefore, hnow⟩ := List.forall_mem_append.mp hsilent
      obtain ⟨row, hrow, hreserved⟩ := h.reserved k n job hstarts halone.of_snoc hbefore
      exact ⟨row, hrow, hreserved.next (hall.1 halone.of_snoc.verdicts).ordered
        (halone.verdicts x (by simp)) (beq_iff_eq.mpr rfl) (halone.since x (by simp))
        (hnow x (by simp) job.id)⟩

end DurableJobs
