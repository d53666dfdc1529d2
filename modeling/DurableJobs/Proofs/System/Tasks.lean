import DurableJobs.Proofs.System.World

/-!
# What becomes of a task

Every law of the system follows a task: where it can stand, what it must have been told to stand there,
and what it will ask for next. `Leads` lists the ways from one phase to the next, each with the reason a
task goes it, and `Occurrence.taskFate` says for a task of any processor and for any turn that the task
stays, starts, goes one of those ways, or is lost. Later proofs are cases on these two and do not open
`Processor.step` again.
-/

set_option autoImplicit false

namespace DurableJobs

open Store (Tables Operation Reply Session)

variable {σ : Type}

namespace Processor

/-- The outcome that the handler of a job gives in the next step of a task, if it gives one. -/
def outcome? (p : Processor σ) (job : Job) : Phase → Option HandlerOutcome
  | .admitted =>
      match (p.registry.dispatch (JobContext.ofJob job) job.payload p.collaborators).1 with
      | .answered outcome => some outcome
      | .waiting => none
  | .running => (p.registry.resume (JobContext.ofJob job) p.collaborators).map (·.1)
  | _ => none

end Processor

/-- The ways from a phase to the next, for a task of a processor that works on a job. `reply?` is what
the store answers in between, if it is asked. -/
inductive Leads (p : Processor σ) (job : Job) (now : Instant)
    (reply? : Option (Except StoreError Reply)) : Phase → Phase → Prop where
  | found (reply : reply? = some (.ok (.flag true))) : Leads p job now reply? .checking .confirming
  /-- A ledger that cannot be read counts as one without the entry. -/
  | missed (reply : reply? = some (.ok (.flag false)) ∨ ∃ error, reply? = some (.error error)) :
      Leads p job now reply? .checking .asking
  | confirmed : Leads p job now reply? .confirming .ended
  | looked (phase next : Phase) (waits : phase = .asking ∨ phase = .queued)
      (leads : next = .admitted ∨ next = .queued ∨ next = .ended) : Leads p job now reply? phase next
  | called (silent : p.outcome? job .admitted = none) : Leads p job now reply? .admitted .running
  | succeeded (phase : Phase) (hears : p.outcome? job phase = some .done) :
      Leads p job now reply? phase .completing
  | condemned (phase : Phase) (outcome : HandlerOutcome) (failure : Failure)
      (hears : p.outcome? job phase = some outcome) (fails : outcome.failure? = some failure)
      (final : p.config.deadLetters.shouldMove job now = true) :
      Leads p job now reply? phase (.archiving failure.message)
  | putOff (phase : Phase) (outcome : HandlerOutcome) (failure : Failure) (delay : Span)
      (hears : p.outcome? job phase = some outcome) (fails : outcome.failure? = some failure)
      (again : p.config.deadLetters.shouldMove job now = false) :
      Leads p job now reply? phase (.rescheduling failure.message delay)
  | recorded (reply : Reply) (answer : reply? = some (.ok reply)) :
      Leads p job now reply? .completing .announcing
  | unrecorded (error : StoreError) (answer : reply? = some (.error error)) :
      Leads p job now reply? .completing .releasing
  | announced : Leads p job now reply? .announcing .releasing
  | archived (message : String) (reply : Reply) (answer : reply? = some (.ok reply)) :
      Leads p job now reply? (.archiving message) .releasing
  | unarchived (message : String) (error : StoreError) (answer : reply? = some (.error error)) :
      Leads p job now reply? (.archiving message) (.burying message)
  | buried (message : String) : Leads p job now reply? (.burying message) .releasing
  | rescheduled (message : String) (delay : Span) :
      Leads p job now reply? (.rescheduling message delay) .releasing
  | released : Leads p job now reply? .releasing .ended

/-- There is one way from putting a job off. -/
theorem Leads.of_rescheduling {p : Processor σ} {job : Job} {now : Instant}
    {reply? : Option (Except StoreError Reply)} {message : String} {delay : Span} {phase : Phase}
    (h : Leads p job now reply? (.rescheduling message delay) phase) : phase = .releasing := by
  cases h with
  | looked _ _ hwaits => rcases hwaits with hwaits | hwaits <;> cases hwaits
  | succeeded _ hears => cases hears
  | condemned _ _ _ hears => cases hears
  | putOff _ _ _ _ hears => cases hears
  | rescheduled => rfl

/-- A task whose next step changes nothing: its handler has not answered, or it is over. -/
def Processor.Rests (p : Processor σ) (task : Task) : Prop :=
  (task.phase = .running ∧ p.outcome? task.job .running = none) ∨ task.phase = .ended

namespace Processor

/-! ## Tasks under the elementary moves -/

theorem number_of_task? {p : Processor σ} {n : Nat} {task : Task} (h : p.task? n = some task) :
    task.number = n := by
  simpa using List.find?_some h

theorem task?_of_tasks {p q : Processor σ} (h : q.tasks = p.tasks) (n : Nat) :
    q.task? n = p.task? n := by
  rw [task?, task?, h]

theorem moveTo_task? (p : Processor σ) (n m : Nat) (phase : Phase) :
    (p.moveTo n phase).task? m =
      if m = n then if phase = .ended then none else (p.task? n).map ({ · with phase })
      else p.task? m := by
  unfold moveTo task?
  by_cases hended : phase = .ended
  · rw [if_pos hended, if_pos hended]
    simp only [List.find?_filter]
    by_cases hm : m = n
    · subst hm
      simp
    · rw [if_neg hm]
      congr 1
      funext task
      by_cases htask : task.number = m <;> simp [htask, hm]
  · rw [if_neg hended, if_neg hended]
    -- moving keeps numbers, so the same task is found before and after
    have hsame : ((fun task : Task => task.number == m) ∘
        fun task => if task.number = n then { task with phase } else task) =
        fun task => task.number == m := by
      funext task
      simp only [Function.comp_apply]
      split <;> rfl
    simp only [List.find?_map, hsame]
    by_cases hm : m = n
    · subst hm
      rw [if_pos rfl]
      cases hfound : p.tasks.find? (·.number == m) with
      | none => rfl
      | some task =>
        have hnumber : task.number = m := by simpa using List.find?_some hfound
        simp [hnumber]
    · rw [if_neg hm]
      cases hfound : p.tasks.find? (·.number == m) with
      | none => rfl
      | some task =>
        have hnumber : task.number = m := by simpa using List.find?_some hfound
        simp [hnumber, hm]

@[simp] theorem moveTo_nextTask (p : Processor σ) (n : Nat) (phase : Phase) :
    (p.moveTo n phase).nextTask = p.nextTask := by
  unfold moveTo
  split <;> rfl

theorem spawn_task? (p : Processor σ) (job : Job) (n : Nat) :
    (p.spawn job).task? n =
      (p.task? n).or (if n = p.nextTask then some ⟨n, job, .checking⟩ else none) := by
  unfold spawn task?
  by_cases h : n = p.nextTask
  · simp [List.find?_append, h]
  · have hne : p.nextTask ≠ n := fun heq => h heq.symm
    simp [List.find?_append, h, hne]

theorem lose_task? (p : Processor σ) (n m : Nat) :
    (p.lose n).task? m = if m = n then none else p.task? m := by
  rw [lose, moveTo_task?, if_pos rfl]
  rfl

/-! ## A step of a task -/

/-- What is made of an outcome is one of the three ways from a handler. -/
theorem leads_finish {p : Processor σ} {job : Job} {now : Instant}
    {reply? : Option (Except StoreError Reply)} {phase : Phase} {outcome : HandlerOutcome}
    (h : p.outcome? job phase = some outcome) (draw : Nat) (metrics : Metrics) :
    Leads p job now reply? phase (settle p.config job outcome now draw metrics).1 := by
  unfold settle
  cases hfails : outcome.failure? with
  | none =>
    cases outcome with
    | done => exact .succeeded phase h
    | failed | panicked => cases hfails
  | some failure =>
    cases hmove : p.config.deadLetters.shouldMove job now with
    | true => exact .condemned phase outcome failure h hfails hmove
    | false => exact .putOff phase outcome failure _ h hfails hmove

/-- What a look at the gate leads to. -/
theorem afterLook_spec (answer : Admission.Answer) :
    afterLook answer = .admitted ∨ afterLook answer = .queued ∨ afterLook answer = .ended := by
  cases answer <;> simp [afterLook]

/-- **A step** leaves a resting task alone, or takes its task along one of the ways. -/
theorem step_spec (p : Processor σ) (task : Task) (moment : Moment) (draw : Nat) (s : Session) :
    (p.Rests task ∧ (p.step task moment draw s).1 = p) ∨
    ∃ (phase : Phase) (q : Processor σ), Leads p task.job moment.wall
        (s.reply? moment.wall (task.operation? moment.wall)) task.phase phase ∧
      (p.step task moment draw s).1 = q.moveTo task.number phase ∧
      q.tasks = p.tasks ∧ q.nextTask = p.nextTask := by
  obtain ⟨n, job, phase⟩ := task
  -- one case per phase; those that call the store split on its answer
  cases phase <;> simp only [step, Task.operation?, Session.reply?, Option.map_some, Option.map_none,
    Operation.call, Store.Call.execute_map]
  case checking =>
    refine Or.inr ?_
    rcases (Store.isProcessed job.id).execute s with ⟨error | _ | _, after⟩
    · exact ⟨.asking, p, .missed (Or.inr ⟨error, rfl⟩), rfl, rfl, rfl⟩
    · exact ⟨.asking, p, .missed (Or.inl rfl), rfl, rfl, rfl⟩
    · exact ⟨.confirming, p, .found rfl, rfl, rfl, rfl⟩
  case confirming => exact Or.inr ⟨.ended, p, .confirmed, rfl, rfl, rfl⟩
  case asking =>
    exact Or.inr ⟨_, _, .looked _ _ (Or.inl rfl) (afterLook_spec _), rfl, rfl, rfl⟩
  case queued =>
    refine Or.inr ⟨_, _, .looked _ _ (Or.inr rfl) ?_, rfl, rfl, rfl⟩
    cases (p.limiter.poll n moment.ticks).1 with
    | none => exact Or.inr (Or.inr rfl)
    | some answer => exact afterLook_spec answer
  case admitted =>
    refine Or.inr ?_
    have houtcome : p.outcome? job .admitted =
        match (p.registry.dispatch (JobContext.ofJob job) job.payload p.collaborators).1 with
        | .answered outcome => some outcome
        | .waiting => none := rfl
    rcases hcall : p.registry.dispatch (JobContext.ofJob job) job.payload p.collaborators
      with ⟨outcome | _, collaborators⟩ <;> rw [hcall] at houtcome
    · exact ⟨_, _, leads_finish houtcome draw p.metrics, rfl, rfl, rfl⟩
    · exact ⟨.running, _, .called houtcome, rfl, rfl, rfl⟩
  case running =>
    have houtcome : p.outcome? job .running =
        (p.registry.resume (JobContext.ofJob job) p.collaborators).map (·.1) := rfl
    rcases hresume : p.registry.resume (JobContext.ofJob job) p.collaborators
      with _ | ⟨outcome, collaborators⟩ <;> rw [hresume] at houtcome
    · exact Or.inl ⟨Or.inl ⟨rfl, houtcome⟩, rfl⟩
    · exact Or.inr ⟨_, _, leads_finish houtcome draw p.metrics, rfl, rfl, rfl⟩
  case completing =>
    refine Or.inr ?_
    rcases (Store.completeProcessed job.id moment.wall).execute s with ⟨error | answer, after⟩
    · exact ⟨.releasing, p, .unrecorded error rfl, rfl, rfl, rfl⟩
    · exact ⟨.announcing, p, .recorded .done rfl, rfl, rfl, rfl⟩
  case announcing => exact Or.inr ⟨.releasing, _, .announced, rfl, rfl, rfl⟩
  case archiving message =>
    refine Or.inr ?_
    rcases (Store.archive job message moment.wall).execute s with ⟨error | letter, after⟩
    · exact ⟨.burying message, p, .unarchived message error rfl, rfl, rfl, rfl⟩
    · exact ⟨.releasing, _, .archived message (.letter letter) rfl, rfl, rfl, rfl⟩
  case burying message => exact Or.inr ⟨.releasing, p, .buried message, rfl, rfl, rfl⟩
  case rescheduling message delay =>
    exact Or.inr ⟨.releasing, p, .rescheduled message delay, rfl, rfl, rfl⟩
  case releasing => exact Or.inr ⟨.ended, _, .released, rfl, rfl, rfl⟩
  case ended => exact Or.inl ⟨Or.inr rfl, trivial⟩

/-- A task that hears an outcome handles it. -/
theorem step_of_outcome {p : Processor σ} {task : Task} {outcome : HandlerOutcome}
    (h : p.outcome? task.job task.phase = some outcome) (moment : Moment) (draw : Nat)
    (s : Session) :
    ∃ collaborators, (p.step task moment draw s).1 =
      { p with collaborators }.finish task outcome moment.wall draw := by
  obtain ⟨n, job, phase⟩ := task
  cases phase <;> first | cases h | unfold outcome? at h; unfold step
  case admitted =>
    dsimp only at h ⊢
    rcases hcall : p.registry.dispatch (JobContext.ofJob job) job.payload p.collaborators
      with ⟨answer | _, collaborators⟩ <;> rw [hcall] at h
    · cases h
      exact ⟨collaborators, rfl⟩
    · cases h
  case running =>
    dsimp only at h ⊢
    rcases hresume : p.registry.resume (JobContext.ofJob job) p.collaborators
      with _ | ⟨answer, collaborators⟩ <;> rw [hresume] at h
    · cases h
    · cases h
      exact ⟨collaborators, rfl⟩

end Processor

/-! ## Numbers of tasks -/

namespace Processor

/-- The tasks of a processor have numbers that it has given out. -/
def Numbered (p : Processor σ) : Prop := ∀ n, (p.task? n).isSome → n < p.nextTask

theorem Numbered.of_tasks {p q : Processor σ} (h : p.Numbered) (htasks : q.tasks = p.tasks)
    (hnext : q.nextTask = p.nextTask) : q.Numbered := by
  intro n hn
  rw [task?_of_tasks htasks] at hn
  rw [hnext]
  exact h n hn

theorem Numbered.moveTo {p : Processor σ} (h : p.Numbered) (n : Nat) (phase : Phase) :
    (p.moveTo n phase).Numbered := by
  intro m hm
  rw [moveTo_nextTask]
  refine h m ?_
  rw [moveTo_task?] at hm
  split at hm
  · next heq =>
    subst heq
    split at hm
    · cases hm
    · rwa [Option.isSome_map] at hm
  · exact hm

theorem Numbered.spawn {p : Processor σ} (h : p.Numbered) (job : Job) : (p.spawn job).Numbered := by
  intro n hn
  change n < p.nextTask + 1
  rw [spawn_task?] at hn
  cases hp : p.task? n with
  | some task =>
    have := h n (by rw [hp]; rfl)
    omega
  | none =>
    rw [hp, Option.none_or] at hn
    split at hn
    · omega
    · cases hn

/-- Numbers are given out in order and kept to. -/
theorem act_numbered (p : Processor σ) (deed : Deed σ) (moment : Moment) (s : Session) :
    p.nextTask ≤ (p.act deed moment s).1.nextTask ∧
      (p.Numbered → (p.act deed moment s).1.Numbered) := by
  cases deed with
  | produce job attempts =>
    rw [act, Producer.enqueue]
    rcases (Store.enqueue job attempts moment.wall).execute s with ⟨_ | _, _⟩ <;>
      exact ⟨Nat.le_refl _, id⟩
  | claim =>
    rw [act, Processor.claim]
    split
    · exact ⟨Nat.le_refl _, id⟩
    · rcases (Store.claimNext moment.wall).execute s with ⟨_ | _ | job, _⟩
      · exact ⟨Nat.le_refl _, id⟩
      · exact ⟨Nat.le_refl _, id⟩
      · exact ⟨Nat.le_succ _, fun h => h.spawn job⟩
  | step n draw =>
    simp only [act]
    cases p.task? n with
    | none => exact ⟨Nat.le_refl _, id⟩
    | some task =>
      rcases p.step_spec task moment draw s with ⟨-, hsame⟩ | ⟨phase, q, -, hmoved, htasks, hnext⟩
      · simp only [hsame]
        exact ⟨Nat.le_refl _, id⟩
      · simp only [hmoved, moveTo_nextTask, hnext]
        exact ⟨Nat.le_refl _, fun h => (h.of_tasks htasks hnext).moveTo task.number phase⟩
  | lose n =>
    rw [act, lose, moveTo_nextTask]
    exact ⟨Nat.le_refl _, fun h => Numbered.moveTo (h.of_tasks rfl rfl) n .ended⟩
  | rescue | cancel | register | disturb => exact ⟨Nat.le_refl _, id⟩

end Processor

/-! ## The fate of a task -/

/-- What can become of the task with a number at a processor in a turn: the task before and the task
behind it. -/
inductive TaskFate (e : Occurrence σ) (k n : Nat) : Option Task → Option Task → Prop where
  | kept (task? : Option Task) (away : ∀ task, ¬ e.Steps k n task) : TaskFate e k n task? task?
  | spawned (p : Processor σ) (job : Job) (action : e.act.action = .act k .claim)
      (processor : e.before.processors[k]? = some p) (new : n = p.nextTask)
      (reply : e.reply? = some (.ok (.claimed (some job)))) :
      TaskFate e k n none (some ⟨n, job, .checking⟩)
  | rested (task : Task) (steps : e.Steps k n task) (rests : task.operation? e.now = none) :
      TaskFate e k n (some task) (some task)
  | moved (p : Processor σ) (task : Task) (phase : Phase) (steps : e.Steps k n task)
      (processor : e.before.processors[k]? = some p)
      (leads : Leads p task.job e.now e.reply? task.phase phase) :
      TaskFate e k n (some task) (some { task with phase })
  | ended (p : Processor σ) (task : Task) (steps : e.Steps k n task)
      (processor : e.before.processors[k]? = some p)
      (leads : Leads p task.job e.now e.reply? task.phase .ended) : TaskFate e k n (some task) none
  | lost (task : Task) (action : e.act.action = .act k (.lose n)) : TaskFate e k n (some task) none

namespace Occurrence

variable {e : Occurrence σ}

/-- A task that another turn or a turn of another task leaves as it was. -/
theorem taskFate_of_eq {k n : Nat} (away : ∀ task, ¬ e.Steps k n task)
    (h : e.after.task? k n = e.before.task? k n) :
    TaskFate e k n (e.before.task? k n) (e.after.task? k n) := by
  rw [h]
  exact .kept _ away

/-- Tasks of the processor that does something, and of all the others. -/
theorem after_task? {k j : Nat} {deed : Deed σ} {p : Processor σ}
    (haction : e.act.action = .act j deed) (hp : e.before.processors[j]? = some p) (n : Nat) :
    e.after.task? k n =
      if k = j then (p.act deed e.act.moment e.session).1.task? n else e.before.task? k n := by
  have hafter : e.after.processors =
      e.before.processors.set j (p.act deed e.act.moment e.session).1 := by
    unfold Occurrence.after World.act
    rw [haction]
    simp only [hp]
    rfl
  rw [World.task?, hafter]
  obtain ⟨hj, -⟩ := List.getElem?_eq_some_iff.mp hp
  by_cases hk : k = j
  · rw [if_pos hk, hk, List.getElem?_set_self hj, Option.bind_some]
  · rw [if_neg hk, List.getElem?_set_ne (Ne.symm hk), World.task?]

theorem not_steps_of_action {k n : Nat} {action : Action σ} (haction : e.act.action = action)
    (hne : ∀ draw, action ≠ .act k (.step n draw)) : ∀ task, ¬ e.Steps k n task := by
  rintro task ⟨⟨draw, hstep⟩, -⟩
  exact hne draw (haction.symm.trans hstep)

/-- A claim keeps the tasks there are, and starts one for the job it is given. -/
theorem taskFate_claim {k n : Nat} {p : Processor σ} (haction : e.act.action = .act k .claim)
    (hp : e.before.processors[k]? = some p) :
    TaskFate e k n (e.before.task? k n) (e.after.task? k n) := by
  have haway : ∀ task, ¬ e.Steps k n task := not_steps_of_action haction fun _ h => by cases h
  have hafter := after_task? (k := k) haction hp n
  have hbefore := World.task?_of_processor hp n
  have hreply : e.reply? = e.session.reply? e.now (p.operation? .claim e.now) := by
    rw [Occurrence.reply?, Occurrence.operation?, haction]
    simp only [hp, Option.bind_some]
  rw [if_pos rfl, Processor.act, Processor.claim] at hafter
  rw [Processor.operation?] at hreply
  split at hafter
  · exact taskFate_of_eq haway (hafter.trans hbefore.symm)
  · next hcancelled =>
    rw [if_neg hcancelled] at hreply
    simp only [Session.reply?, Option.map_some, Operation.call, Store.Call.execute_map] at hreply
    have hnow : e.act.moment.wall = e.now := rfl
    rw [hnow] at hafter
    rcases hcall : (Store.claimNext e.now).execute e.session with ⟨error | _ | job, session⟩ <;>
      rw [hcall] at hafter hreply
    · exact taskFate_of_eq haway (hafter.trans hbefore.symm)
    · exact taskFate_of_eq haway (hafter.trans hbefore.symm)
    · simp only [Processor.spawn_task?] at hafter
      rw [hafter, hbefore]
      cases p.task? n with
      | some task => exact .kept _ haway
      | none =>
        split
        · next hnew => exact .spawned p job haction hp hnew hreply
        · exact .kept _ haway

/-- A step moves its own task only. -/
theorem taskFate_step {k n m draw : Nat} {p : Processor σ}
    (haction : e.act.action = .act k (.step m draw)) (hp : e.before.processors[k]? = some p) :
    TaskFate e k n (e.before.task? k n) (e.after.task? k n) := by
  have hafter := after_task? (k := k) haction hp n
  have hbefore := World.task?_of_processor hp
  rw [if_pos rfl, Processor.act] at hafter
  have hother : n ≠ m → ∀ task, ¬ e.Steps k n task := fun hne =>
    not_steps_of_action haction fun draw' heq => by
      cases heq
      exact hne rfl
  cases hm : p.task? m with
  | none =>
    rw [hm] at hafter
    refine taskFate_of_eq ?_ (hafter.trans (hbefore n).symm)
    rintro task ⟨⟨draw', hstep⟩, htask⟩
    rw [haction] at hstep
    cases hstep
    rw [hbefore, hm] at htask
    cases htask
  | some task =>
    have hsteps : e.Steps k m task := ⟨⟨draw, haction⟩, (hbefore m).trans hm⟩
    have hreply : e.reply? = e.session.reply? e.now (task.operation? e.now) := by
      rw [Occurrence.reply?, hsteps.operation?]
    simp only [hm] at hafter
    rcases p.step_spec task e.act.moment draw e.session
      with ⟨hrests, hsame⟩ | ⟨phase, q, hleads, hmoved, htasks, -⟩
    · rw [hsame] at hafter
      by_cases hn : n = m
      · subst hn
        rw [hafter, hbefore, hm]
        refine .rested task hsteps ?_
        rcases hrests with ⟨hphase, -⟩ | hphase <;> rw [Task.operation?, hphase]
      · exact taskFate_of_eq (hother hn) (hafter.trans (hbefore n).symm)
    · rw [hmoved, Processor.moveTo_task?, Processor.number_of_task? hm,
        Processor.task?_of_tasks htasks, Processor.task?_of_tasks htasks] at hafter
      by_cases hn : n = m
      · subst hn
        rw [if_pos rfl, hm] at hafter
        rw [hafter, hbefore, hm]
        change Leads p task.job e.now (e.session.reply? e.now (task.operation? e.now)) _ _ at hleads
        rw [← hreply] at hleads
        split
        · next hended => exact .ended p task hsteps hp (hended ▸ hleads)
        · exact .moved p task phase hsteps hp hleads
      · rw [if_neg hn] at hafter
        exact taskFate_of_eq (hother hn) (hafter.trans (hbefore n).symm)

theorem taskFate_lose {k n m : Nat} {p : Processor σ} (haction : e.act.action = .act k (.lose m))
    (hp : e.before.processors[k]? = some p) :
    TaskFate e k n (e.before.task? k n) (e.after.task? k n) := by
  have haway : ∀ task, ¬ e.Steps k n task := not_steps_of_action haction fun _ h => by cases h
  have hafter := after_task? (k := k) haction hp n
  have hbefore := World.task?_of_processor hp n
  rw [if_pos rfl, Processor.act, Processor.lose_task?] at hafter
  by_cases hn : n = m
  · subst hn
    rw [if_pos rfl] at hafter
    rw [hafter]
    cases e.before.task? k n with
    | none => exact .kept _ haway
    | some task => exact .lost task haction
  · rw [if_neg hn] at hafter
    exact taskFate_of_eq haway (hafter.trans hbefore.symm)

/-- **The fate of a task**: whatever the turn is, the task goes one of these ways. -/
theorem taskFate (e : Occurrence σ) (k n : Nat) :
    TaskFate e k n (e.before.task? k n) (e.after.task? k n) := by
  cases haction : e.act.action with
  | ask operation =>
    refine taskFate_of_eq (not_steps_of_action haction fun _ h => by cases h) ?_
    rw [Occurrence.after, World.act, haction]
    rfl
  | launch config registry limiter collaborators =>
    refine taskFate_of_eq (not_steps_of_action haction fun _ h => by cases h) ?_
    rw [Occurrence.after, World.act, haction]
    simp only [World.task?, List.getElem?_append]
    split
    · rfl
    · next hk =>
      rw [List.getElem?_eq_none (Nat.le_of_not_lt hk), Option.bind_none, List.getElem?_singleton]
      split <;> rfl
  | act j deed =>
    cases hp : e.before.processors[j]? with
    | none =>
      have hsame : e.after = e.before := by
        rw [Occurrence.after, World.act, haction]
        simp only [hp]
      refine taskFate_of_eq ?_ (congrArg (World.task? · k n) hsame)
      rintro task ⟨⟨draw, hstep⟩, htask⟩
      rw [haction] at hstep
      cases hstep
      rw [World.task?, hp] at htask
      cases htask
    | some p =>
      have hafter := after_task? (k := k) haction hp n
      by_cases hk : k = j
      · subst hk
        have hbefore := World.task?_of_processor hp n
        rw [if_pos rfl] at hafter
        cases deed with
        | claim => exact taskFate_claim haction hp
        | step m draw => exact taskFate_step haction hp
        | lose m => exact taskFate_lose haction hp
        | produce job attempts =>
          refine taskFate_of_eq (not_steps_of_action haction fun _ h => by cases h) (hafter.trans ?_)
          rw [hbefore, Processor.act, Producer.enqueue]
          rcases (Store.enqueue job attempts e.act.moment.wall).execute e.session with ⟨_ | _, _⟩
          · rfl
          · rfl
        | rescue | cancel | register | disturb =>
          refine taskFate_of_eq (not_steps_of_action haction fun _ h => by cases h) ?_
          exact hafter.trans hbefore.symm
      · rw [if_neg hk] at hafter
        refine taskFate_of_eq (not_steps_of_action haction fun draw heq => ?_) hafter
        cases heq
        exact hk rfl

/-- **A step of a task**: it rests, or goes one of its ways and is forgotten when it ends there. -/
theorem Steps.cases {k n : Nat} {task : Task} (hsteps : e.Steps k n task) :
    ∃ p, e.before.processors[k]? = some p ∧
      ((p.Rests task ∧ e.after.task? k n = some task) ∨
        ∃ phase, Leads p task.job e.now e.reply? task.phase phase ∧
          e.after.task? k n = if phase = .ended then none else some { task with phase }) := by
  have hop := hsteps.operation?
  obtain ⟨⟨draw, haction⟩, htask⟩ := hsteps
  obtain ⟨p, hp, hn⟩ := Option.bind_eq_some_iff.mp htask
  obtain rfl : task.number = n := Processor.number_of_task? hn
  refine ⟨p, hp, ?_⟩
  have hafter : e.after.task? k task.number =
      (p.step task e.act.moment draw e.session).1.task? task.number := by
    rw [after_task? haction hp, if_pos rfl]
    simp only [Processor.act, hn]
  rw [hafter]
  rcases p.step_spec task e.act.moment draw e.session
    with ⟨hrests, hsame⟩ | ⟨phase, q, hleads, hmoved, htasks, -⟩
  · exact Or.inl ⟨hrests, by rw [hsame, hn]⟩
  · change Leads p task.job e.now (e.session.reply? e.now (task.operation? e.now)) _ _ at hleads
    rw [← hop] at hleads
    refine Or.inr ⟨phase, hleads, ?_⟩
    rw [hmoved, Processor.moveTo_task?, if_pos rfl, Processor.task?_of_tasks htasks, hn,
      Option.map_some]

/-- A look into the ledger answers what is there. -/
theorem look_spec {k n : Nat} {task : Task} (hsteps : e.Steps k n task)
    (hphase : task.phase = .checking) {holds : Bool} (hreply : e.reply? = some (.ok (.flag holds))) :
    e.before.tables.isRecorded task.job.id = holds := by
  have hop : e.operation? = some (.isProcessed task.job.id) := by
    rw [hsteps.operation?, Task.operation?, hphase]
  have hchange := Occurrence.change hop hreply
  generalize hanswer : Except.ok (Reply.flag holds) = answer at hchange
  generalize e.after.tables = after at hchange
  cases hchange with
  | failed => cases hanswer
  | looked _ reply _ ledger =>
    rw [ledger _ rfl] at hanswer
    injection hanswer with hanswer
    injection hanswer with hholds
    exact hholds.symm

end Occurrence

end DurableJobs
