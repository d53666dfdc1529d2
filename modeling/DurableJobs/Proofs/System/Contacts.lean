import DurableJobs.Proofs.System.Tasks

/-!
# What handlers are asked

That a handler has run cannot be seen in what it leaves behind: it may change nothing, and answer what
another one would have answered. So the calls are entered by the handlers themselves. A `Logbook` is the
world of the collaborators together with what the handlers have been asked, and a handler that is `logged`
under its type does what it does and enters it.

The handlers of `Processor.logged` are those of the processor, each logged under the type it is registered
for. Such a processor does what the processor does (`Processor.step_logged`), so what its handlers enter in
a step is what the handlers of the processor are asked in it: its `contacts`.
-/

set_option autoImplicit false

namespace DurableJobs

variable {σ : Type}

/-- What the handler of a type is asked, and what it says to it. -/
inductive Contact where
  | called (jobType : String) (context : JobContext) (payload : List UInt8) (reaction : Reaction)
  /-- A call that has waited looks again, and has its outcome. -/
  | resumed (jobType : String) (context : JobContext) (outcome : HandlerOutcome)
  deriving DecidableEq

/-- The world of the collaborators, with what the handlers have been asked, in order. -/
structure Logbook (σ : Type) where
  world : σ
  entries : List Contact

/-- A handler that also enters what it is asked, under the type it is registered for. -/
def Handler.logged (handler : Handler σ) (jobType : String) : Handler (Logbook σ) where
  call context payload log :=
    let (reaction, world) := handler.call context payload log.world
    (reaction, ⟨world, log.entries ++ [.called jobType context payload reaction]⟩)
  resume context log :=
    (handler.resume context log.world).map fun (outcome, world) =>
      (outcome, ⟨world, log.entries ++ [.resumed jobType context outcome]⟩)

namespace Registry

/-- The same handlers, each logged under its type. -/
def logged (registry : Registry σ) : Registry (Logbook σ) :=
  ⟨registry.handlers.map fun (jobType, handler) => (jobType, handler.logged jobType)⟩

variable (registry : Registry σ) (context : JobContext) (payload : List UInt8) (log : Logbook σ)

theorem get?_logged (jobType : String) :
    registry.logged.get? jobType = (registry.get? jobType).map (·.logged jobType) := by
  obtain ⟨handlers⟩ := registry
  unfold logged get?
  induction handlers with
  | nil => rfl
  | cons entry rest ih =>
    obtain ⟨name, handler⟩ := entry
    rw [List.map_cons, List.lookup_cons, List.lookup_cons]
    cases h : jobType == name with
    | true => rw [eq_of_beq h, Option.map_some]
    | false => exact ih

/-- What is entered by a call: the handler of the type is called, if there is one. -/
def calls (world : σ) : List Contact :=
  match registry.get? context.jobType with
  | some handler =>
      [.called context.jobType context payload (handler.call context payload world).1]
  | none => []

/-- What is entered by a look for an answer, once there is one. -/
def resumes (world : σ) : List Contact :=
  match registry.resume context world with
  | some (outcome, _) => [.resumed context.jobType context outcome]
  | none => []

theorem dispatch_logged :
    registry.logged.dispatch context payload log =
      ((registry.dispatch context payload log.world).1,
        ⟨(registry.dispatch context payload log.world).2,
          log.entries ++ registry.calls context payload log.world⟩) := by
  unfold dispatch calls
  rw [get?_logged]
  cases registry.get? context.jobType with
  | some handler => rfl
  | none =>
    dsimp only [Option.map_none]
    rw [List.append_nil]

theorem resume_logged :
    registry.logged.resume context log =
      (registry.resume context log.world).map fun (outcome, world) =>
        (outcome, ⟨world, log.entries ++ registry.resumes context log.world⟩) := by
  unfold resumes resume
  rw [get?_logged]
  cases registry.get? context.jobType with
  | none => rfl
  | some handler =>
    dsimp only [Option.map_some, Option.bind_some, Handler.logged]
    cases handler.resume context log.world <;> rfl

end Registry

namespace Processor

variable (p : Processor σ) (entries : List Contact) (task : Task) (moment : Moment) (draw : Nat)
  (s : Store.Session)

/-- The processor with its handlers logged, and what they have entered so far. -/
def logged : Processor (Logbook σ) :=
  { p with registry := p.registry.logged, collaborators := ⟨p.collaborators, entries⟩ }

/-- What the handlers of a processor are asked in a step of a task: what they enter. -/
def contacts : List Contact := ((p.logged []).step task moment draw s).1.collaborators.entries

/-- The same by the phase of the task. -/
def entered : List Contact :=
  match task.phase with
  | .admitted => p.registry.calls (JobContext.ofJob task.job) task.job.payload p.collaborators
  | .running => p.registry.resumes (JobContext.ofJob task.job) p.collaborators
  | _ => []

theorem moveTo_logged (n : Nat) (phase : Phase) :
    (p.logged entries).moveTo n phase = (p.moveTo n phase).logged entries := by
  unfold moveTo
  split <;> rfl

theorem finish_logged (outcome : HandlerOutcome) (now : Instant) :
    (p.logged entries).finish task outcome now draw = (p.finish task outcome now draw).logged entries := by
  unfold finish
  dsimp only [logged]
  generalize settle p.config task.job outcome now draw p.metrics = settled
  exact moveTo_logged { p with metrics := settled.2 } entries task.number settled.1

/-- **A processor with logged handlers does what the processor does**, and its handlers enter what they are
asked. -/
theorem step_logged :
    (p.logged entries).step task moment draw s =
      ((p.step task moment draw s).1.logged (entries ++ p.entered task),
        (p.step task moment draw s).2) := by
  obtain ⟨n, job, phase⟩ := task
  have hmoves : ∀ (q : Processor σ) (phase : Phase) (session : Store.Session),
      ((q.logged entries).moveTo n phase, session) = ((q.moveTo n phase).logged (entries ++ []), session) :=
    fun q phase session => by rw [List.append_nil, moveTo_logged]
  unfold step entered
  cases phase <;> dsimp only
  case checking =>
    rcases (Store.isProcessed job.id).execute s with ⟨_ | _ | _, session⟩ <;> exact hmoves p _ session
  case confirming => exact hmoves p _ _
  case asking => exact hmoves { p with limiter := (p.limiter.acquire n job.jobType () moment.ticks).2 } _ s
  case queued => exact hmoves { p with limiter := (p.limiter.poll n moment.ticks).2 } _ s
  case admitted =>
    have hcall := p.registry.dispatch_logged (JobContext.ofJob job) job.payload ⟨p.collaborators, entries⟩
    change (p.logged entries).registry.dispatch _ _ (p.logged entries).collaborators = _ at hcall
    rw [hcall]
    rcases p.registry.dispatch (JobContext.ofJob job) job.payload p.collaborators with ⟨_ | _, world⟩
    · exact congrArg (·, s) (finish_logged { p with collaborators := world } _ _ draw _ _)
    · exact congrArg (·, s) (moveTo_logged { p with collaborators := world } _ n _)
  case running =>
    have hlook := p.registry.resume_logged (JobContext.ofJob job) ⟨p.collaborators, entries⟩
    change (p.logged entries).registry.resume _ (p.logged entries).collaborators = _ at hlook
    rw [hlook]
    unfold Registry.resumes
    rcases p.registry.resume (JobContext.ofJob job) p.collaborators with _ | ⟨outcome, world⟩
    · rw [List.append_nil]
      rfl
    · exact congrArg (·, s) (finish_logged { p with collaborators := world } _ _ draw _ _)
  case completing =>
    rcases (Store.completeProcessed job.id moment.wall).execute s with ⟨_ | _, session⟩ <;>
      exact hmoves p _ session
  case announcing => exact hmoves { p with notifications := p.notifications ++ [completion job] } _ s
  case archiving message =>
    rcases (Store.archive job message moment.wall).execute s with ⟨_ | _, session⟩
    · exact hmoves p _ session
    · exact hmoves { p with metrics := p.metrics.deadLettered job.jobType } _ session
  case burying message => exact hmoves p _ _
  case rescheduling message delay => exact hmoves p _ _
  case releasing => exact hmoves { p with limiter := (p.limiter.release n).2 } _ s
  case ended => rw [List.append_nil]

theorem contacts_eq : p.contacts task moment draw s = p.entered task := by
  rw [contacts, step_logged]
  exact List.nil_append _

end Processor

/-! ## What is asked happens to the collaborators -/

/-- The handler that is registered for the type of a contact says this on the world before, and leaves the
world behind. -/
def Contact.Happens (registry : Registry σ) (before after : σ) : Contact → Prop
  | .called jobType context payload reaction =>
      ∃ handler, registry.get? jobType = some handler ∧
        handler.call context payload before = (reaction, after)
  | .resumed jobType context outcome =>
      ∃ handler, registry.get? jobType = some handler ∧
        handler.resume context before = some (outcome, after)

namespace Processor

@[simp] theorem moveTo_collaborators (p : Processor σ) (n : Nat) (phase : Phase) :
    (p.moveTo n phase).collaborators = p.collaborators := by
  unfold moveTo
  split <;> rfl

@[simp] theorem moveTo_registry (p : Processor σ) (n : Nat) (phase : Phase) :
    (p.moveTo n phase).registry = p.registry := by
  unfold moveTo
  split <;> rfl

theorem finish_collaborators (p : Processor σ) (task : Task) (outcome : HandlerOutcome) (now : Instant)
    (draw : Nat) : (p.finish task outcome now draw).collaborators = p.collaborators :=
  moveTo_collaborators _ _ _

theorem finish_registry (p : Processor σ) (task : Task) (outcome : HandlerOutcome) (now : Instant)
    (draw : Nat) : (p.finish task outcome now draw).registry = p.registry :=
  moveTo_registry _ _ _

variable (p : Processor σ) (task : Task) (moment : Moment) (draw : Nat) (s : Store.Session)

/-- **A step asks one handler for one thing at most**, and the handler that is registered does it; if none
is asked, the collaborators stay as they are. -/
theorem step_contacts :
    (p.contacts task moment draw s = [] ∧
      (p.step task moment draw s).1.collaborators = p.collaborators) ∨
    ∃ contact, p.contacts task moment draw s = [contact] ∧
      contact.Happens p.registry p.collaborators (p.step task moment draw s).1.collaborators := by
  rw [contacts_eq]
  obtain ⟨n, job, phase⟩ := task
  unfold step entered
  cases phase <;> dsimp only
  case admitted =>
    unfold Registry.calls Registry.dispatch
    cases hget : p.registry.get? (JobContext.ofJob job).jobType with
    | none => exact Or.inl ⟨rfl, finish_collaborators _ _ _ _ _⟩
    | some handler =>
      dsimp only
      rcases hcall : handler.call (JobContext.ofJob job) job.payload p.collaborators
        with ⟨outcome | _, world⟩
      · refine Or.inr ⟨_, rfl, handler, hget, ?_⟩
        rw [finish_collaborators, hcall]
      · refine Or.inr ⟨_, rfl, handler, hget, ?_⟩
        rw [moveTo_collaborators, hcall]
  case running =>
    unfold Registry.resumes
    cases hresume : p.registry.resume (JobContext.ofJob job) p.collaborators with
    | none => exact Or.inl ⟨rfl, rfl⟩
    | some answer =>
      obtain ⟨outcome, world⟩ := answer
      obtain ⟨handler, hget, hanswer⟩ := Option.bind_eq_some_iff.mp hresume
      refine Or.inr ⟨_, rfl, handler, hget, ?_⟩
      dsimp only
      rw [finish_collaborators, hanswer]
  -- no other step asks a handler, and all of them leave the collaborators alone
  all_goals refine Or.inl ⟨rfl, ?_⟩
  case checking =>
    rcases (Store.isProcessed job.id).execute s with ⟨_ | _ | _, _⟩ <;> simp
  case completing =>
    rcases (Store.completeProcessed job.id moment.wall).execute s with ⟨_ | _, _⟩ <;> simp
  case archiving message =>
    rcases (Store.archive job message moment.wall).execute s with ⟨_ | _, _⟩ <;> simp
  all_goals simp

/-- The handlers of a processor are those it was made with. -/
theorem step_registry : (p.step task moment draw s).1.registry = p.registry := by
  obtain ⟨n, job, phase⟩ := task
  unfold step
  cases phase <;> dsimp only
  case checking =>
    rcases (Store.isProcessed job.id).execute s with ⟨_ | _ | _, _⟩ <;> simp
  case admitted =>
    rcases p.registry.dispatch (JobContext.ofJob job) job.payload p.collaborators with ⟨_ | _, _⟩ <;>
      simp [finish_registry]
  case running =>
    rcases p.registry.resume (JobContext.ofJob job) p.collaborators with _ | ⟨_, _⟩ <;>
      simp [finish_registry]
  case completing =>
    rcases (Store.completeProcessed job.id moment.wall).execute s with ⟨_ | _, _⟩ <;> simp
  case archiving message =>
    rcases (Store.archive job message moment.wall).execute s with ⟨_ | _, _⟩ <;> simp
  all_goals simp

theorem act_registry (deed : Deed σ) : (p.act deed moment s).1.registry = p.registry := by
  cases deed with
  | produce job attempts =>
    rw [act, Producer.enqueue]
    rcases (Store.enqueue job attempts moment.wall).execute s with ⟨_ | _, _⟩ <;> rfl
  | claim =>
    rw [act, claim]
    split
    · rfl
    · rcases (Store.claimNext moment.wall).execute s with ⟨_ | _ | _, _⟩ <;> rfl
  | step n draw =>
    simp only [act]
    cases p.task? n with
    | none => rfl
    | some task => exact p.step_registry task moment draw s
  | lose n => exact moveTo_registry _ _ _
  | rescue | cancel | register | disturb => rfl

end Processor

end DurableJobs
