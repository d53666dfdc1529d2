import Mathlib.Data.List.Basic
import DurableJobs.Proofs.System.Closed
import DurableJobs.Proofs.System.Dispatch

/-!
# The loop of a processor

A processor that is started goes round a loop: it waits, makes a pass over the due jobs, and waits again,
until it sees that it has been cancelled; then it waits for its tasks and returns. Two things are finer
here than in a `World`. The loop looks at its cancellation before each claim, and may be cancelled
between the look and the claim. And a producer puts its job into the store first and wakes the loop
later, so that anything may come in between.

To the system all this is a run like others. `Scene.world_cases` says which turn a move of the service
amounts to; a claim that a look has let through is the claim of a processor that is not cancelled. So
every law of the system is a law of the service (`Service.law_of_world`).
-/

set_option autoImplicit false

namespace DurableJobs

open Store (Operation Reply Session)

variable {σ : Type}

/-! ## Passes -/

/-- Where the loop of a processor stands. -/
inductive Loop where
  /-- For a cancellation, a wake-up or the next tick. -/
  | waiting
  /-- In a pass that has claimed so many jobs, about to see whether it goes on. -/
  | looking (claimed : Nat)
  /-- In a pass, about to claim. -/
  | claiming (claimed : Nat)
  /-- Out of the loop, waiting for the tasks. -/
  | draining
  | returned
  deriving DecidableEq

/-- The loop has looked, and claims next. -/
def Loop.claims : Loop → Bool
  | .claiming _ => true
  | _ => false

namespace Processor

/-- A pass that has claimed so many jobs goes on. -/
def goesOn (p : Processor σ) (claimed : Nat) : Bool :=
  decide (claimed < p.config.claimBatchSize) && !p.cancelled

/-- Claim the next due job, whether the processor is cancelled by now or not. -/
def take (p : Processor σ) (moment : Moment) (session : Session) :
    ClaimResult × Processor σ × Session :=
  let (answer, session) := (Store.claimNext moment.wall).execute session
  match answer with
  | .ok (some job) => (.claimed job, p.spawn job, session)
  | .ok none | .error _ => (.stopped, p, session)

/-- A claim is a look at the cancellation and then a claim. -/
theorem claim_eq_take (p : Processor σ) (moment : Moment) (session : Session) :
    p.claim moment session = if p.cancelled then (.stopped, p, session) else p.take moment session :=
  rfl

end Processor

/-! ## The service -/

/-- The system, the loop of one of its processors, and what the producers of that processor are at. -/
structure Service (σ : Type) where
  world : World σ
  loop : Loop
  /-- The jobs that have been put into the store and whose producers have not woken the loop yet. -/
  untold : List Job

/-- What the processor does, or its producers do with it. -/
inductive Stir where
  /-- The producer of a job that is in wakes the loop, and returns the job. -/
  | tell (job : Job)
  /-- The waiting loop takes the wake-up. A wake-up that the loop has been handed and has not taken is
  stored like any other: if another branch wins, it is passed on. -/
  | wake
  /-- The waiting loop meets the next tick of its clock. -/
  | tick
  | look
  | claim
  /-- The waiting loop sees that it has been cancelled. -/
  | leave
  | finish

/-- The job that a stir returns to its producer. -/
def Stir.told? : Stir → Option Job
  | .tell job => some job
  | _ => none

inductive Move (σ : Type) where
  /-- Anything else in the system. -/
  | other (action : Action σ)
  /-- A producer puts a job into the store. -/
  | commit (job : NewJob) (defaultMaxAttempts : Int)
  | own (stir : Stir)

structure Beat (σ : Type) where
  move : Move σ
  moment : Moment
  /-- Which statements of the beat the database fails. -/
  faults : List Bool

/-- A beat at a whole second in which the database fails nothing. -/
def Beat.quiet (second : Nat) (move : Move σ) : Beat σ :=
  ⟨move, ⟨Store.wholeSecond second, second * 1000000000⟩, []⟩

/-- A turn at the time of a beat. -/
def Beat.turn (beat : Beat σ) (action : Action σ) : Turn σ := ⟨action, beat.moment, beat.faults⟩

/-- A beat and the service it meets. -/
abbrev Scene (σ : Type) := Event (Service σ) (Beat σ)

def World.put (w : World σ) (k : Nat) (p : Processor σ) : World σ :=
  { w with processors := w.processors.set k p }

namespace Service

/-- No jobs, no processors, and a loop that waits. -/
def start : Service σ := ⟨World.empty, .waiting, []⟩

/-- What becomes of the service by a stir of its processor, which stands at place `k`. -/
def stir (s : Service σ) (k : Nat) (p : Processor σ) (moment : Moment) (faults : List Bool) :
    Stir → Service σ
  | .tell job =>
      if job ∈ s.untold then ⟨s.world.put k p.notify, s.loop, s.untold.erase job⟩ else s
  | .wake =>
      if s.loop = .waiting ∧ p.wakeUp = true then
        ⟨s.world.put k { p with wakeUp := false }, .looking 0, s.untold⟩
      else s
  | .tick => if s.loop = .waiting then { s with loop := .looking 0 } else s
  | .look =>
      match s.loop with
      | .looking claimed => { s with loop := if p.goesOn claimed then .claiming claimed else .waiting }
      | _ => s
  | .claim =>
      match s.loop with
      | .claiming claimed =>
          let (result, p, session) := p.take moment ⟨s.world.tables, faults⟩
          let loop := match result with
            | .claimed _ => .looking (claimed + 1)
            | .stopped => .waiting
          ⟨{ s.world.put k p with tables := session.tables }, loop, s.untold⟩
      | _ => s
  | .leave => if s.loop = .waiting ∧ p.cancelled = true then { s with loop := .draining } else s
  | .finish => if s.loop = .draining ∧ p.tasks = [] then { s with loop := .returned } else s

/-- One beat of the service whose processor stands at place `k`. -/
def act (k : Nat) (s : Service σ) (beat : Beat σ) : Service σ :=
  match beat.move with
  | .other action => { s with world := s.world.act (beat.turn action) }
  | .commit job defaultMaxAttempts =>
      let (answer, session) :=
        (Store.enqueue job defaultMaxAttempts beat.moment.wall).execute ⟨s.world.tables, beat.faults⟩
      ⟨{ s.world with tables := session.tables }, s.loop, answer.toOption.toList ++ s.untold⟩
  | .own stir =>
      match s.world.processors[k]? with
      | none => s
      | some p => s.stir k p beat.moment beat.faults stir

/-- The service behind a run. -/
abbrev actAll (k : Nat) (s : Service σ) (beats : List (Beat σ)) : Service σ := Run.final (act k) s beats

/-- The scenes of a run. -/
abbrev scenes (k : Nat) (s : Service σ) (beats : List (Beat σ)) : List (Scene σ) :=
  Run.history (act k) s beats

/-- The processor has a wake-up stored. -/
def woken (k : Nat) (s : Service σ) : Bool := s.world.processors[k]?.any (·.wakeUp)

end Service

namespace Scene

variable {k : Nat}

def now (e : Scene σ) : Instant := e.act.moment.wall

def after (k : Nat) (e : Scene σ) : Service σ := e.before.act k e.act

/-- A pass begins. -/
def begins (k : Nat) (e : Scene σ) : Bool :=
  decide (e.before.loop = .waiting ∧ (e.after k).loop = .looking 0)

/-- The turn of the system that a beat amounts to, if it is one. The claim of the loop meets a processor
that is not cancelled, since the loop has looked. -/
def turn? (k : Nat) (e : Scene σ) : Option (Occurrence σ) :=
  match e.act.move with
  | .other action => some ⟨e.before.world, e.act.turn action⟩
  | .commit job attempts => some ⟨e.before.world, e.act.turn (.ask (.enqueue job attempts))⟩
  | .own .claim =>
      match e.before.loop, e.before.world.processors[k]? with
      | .claiming _, some p => some ⟨e.before.world.put k { p with cancelled := false },
          e.act.turn (.act k .claim)⟩
      | _, _ => none
  | .own _ => none

end Scene

/-- The turns of the system that a run of the service amounts to. -/
def turnsOf (k : Nat) (scenes : List (Scene σ)) : List (Occurrence σ) := scenes.filterMap (·.turn? k)

/-! ## Deeds in two beats -/

namespace Service

variable {s : Service σ} {k : Nat} {p : Processor σ} {moment : Moment} {faults : List Bool}

/-- A look that goes on and the claim behind it are a claim of the processor. -/
theorem look_claim (hp : s.world.processors[k]? = some p) {claimed : Nat}
    (hloop : s.loop = .looking claimed) (hgoes : p.goesOn claimed = true) :
    (s.actAll k [⟨.own .look, moment, faults⟩, ⟨.own .claim, moment, faults⟩]).world =
      s.world.act ⟨.act k .claim, moment, faults⟩ := by
  have hopen : p.cancelled = false := by
    rw [← Bool.not_eq_true', (Bool.and_eq_true_iff.mp hgoes).2]
  simp only [Run.final_cons, Run.final_nil, act, hp, stir, hloop, hgoes, if_pos, World.act, Processor.act,
    Processor.claim_eq_take, hopen]
  rfl

/-- Putting a job in and waking the loop is what the producer of a processor does. -/
theorem commit_tell (hp : s.world.processors[k]? = some p) {job : NewJob} {attempts : Int} {created : Job}
    {session : Session}
    (hcall : (Store.enqueue job attempts moment.wall).execute ⟨s.world.tables, faults⟩ =
      (.ok created, session)) :
    (s.actAll k [⟨.commit job attempts, moment, faults⟩, ⟨.own (.tell created), moment, faults⟩]) =
      { s with world := s.world.act ⟨.act k (.produce job attempts), moment, faults⟩ } := by
  simp [act, hp, hcall, stir, World.act, Processor.act, Producer.enqueue, World.put, Except.toOption]

end Service

/-! ## What a beat can do -/

/-- What a beat can make of the service. -/
inductive Effect (k : Nat) (e : Scene σ) : Service σ → Prop where
  | other (action : Action σ) (move : e.act.move = .other action) :
      Effect k e { e.before with world := e.before.world.act (e.act.turn action) }
  | committed (job : NewJob) (attempts : Int) (move : e.act.move = .commit job attempts)
      (answer : Except StoreError Job) (session : Session)
      (call : (Store.enqueue job attempts e.now).execute ⟨e.before.world.tables, e.act.faults⟩ =
        (answer, session)) :
      Effect k e ⟨{ e.before.world with tables := session.tables }, e.before.loop,
        answer.toOption.toList ++ e.before.untold⟩
  /-- The stir is none that the processor is ready for. -/
  | idle (stir : Stir) (move : e.act.move = .own stir) (turn : e.turn? k = none)
      (untold : ∀ job, stir.told? = some job → job ∈ e.before.untold →
        e.before.world.processors[k]? = none) : Effect k e e.before
  | told (p : Processor σ) (there : e.before.world.processors[k]? = some p) (job : Job)
      (move : e.act.move = .own (.tell job)) (untold : job ∈ e.before.untold) :
      Effect k e ⟨e.before.world.put k p.notify, e.before.loop, e.before.untold.erase job⟩
  | woken (p : Processor σ) (there : e.before.world.processors[k]? = some p)
      (move : e.act.move = .own .wake) (waiting : e.before.loop = .waiting) :
      Effect k e ⟨e.before.world.put k { p with wakeUp := false }, .looking 0, e.before.untold⟩
  | ticked (move : e.act.move = .own .tick) (waiting : e.before.loop = .waiting) :
      Effect k e { e.before with loop := .looking 0 }
  | looked (p : Processor σ) (there : e.before.world.processors[k]? = some p)
      (move : e.act.move = .own .look) (claimed : Nat) (looking : e.before.loop = .looking claimed) :
      Effect k e { e.before with loop := if p.goesOn claimed then .claiming claimed else .waiting }
  | took (p : Processor σ) (there : e.before.world.processors[k]? = some p)
      (move : e.act.move = .own .claim) (claimed : Nat) (claiming : e.before.loop = .claiming claimed)
      (result : Processor.ClaimResult) (q : Processor σ) (session : Session)
      (call : p.take e.act.moment ⟨e.before.world.tables, e.act.faults⟩ = (result, q, session))
      (loop : Loop) (next : loop = .looking (claimed + 1) ∨ loop = .waiting) :
      Effect k e ⟨{ e.before.world.put k q with tables := session.tables }, loop, e.before.untold⟩
  | left (p : Processor σ) (there : e.before.world.processors[k]? = some p)
      (move : e.act.move = .own .leave) (cancelled : p.cancelled = true) :
      Effect k e { e.before with loop := .draining }
  | finished (p : Processor σ) (there : e.before.world.processors[k]? = some p)
      (move : e.act.move = .own .finish) (draining : e.before.loop = .draining)
      (empty : p.tasks = []) : Effect k e { e.before with loop := .returned }

/-- A stir other than a claim is no turn of the system. -/
theorem Scene.turn?_of_stir {k : Nat} {e : Scene σ} {stir : Stir} (move : e.act.move = .own stir)
    (hne : stir ≠ .claim) : e.turn? k = none := by
  rw [Scene.turn?, move]
  cases stir <;> first | rfl | exact absurd rfl hne

theorem Effect.idle_of_ne {k : Nat} {e : Scene σ} {stir : Stir} (move : e.act.move = .own stir)
    (hclaim : stir ≠ .claim) (htell : stir.told? = none) : Effect k e e.before :=
  .idle stir move (Scene.turn?_of_stir move hclaim) fun job h => by
    rw [htell] at h
    cases h

theorem Service.stir_effect {k : Nat} {e : Scene σ} {p : Processor σ}
    (there : e.before.world.processors[k]? = some p) {stir : Stir} (move : e.act.move = .own stir) :
    Effect k e (e.before.stir k p e.act.moment e.act.faults stir) := by
  cases stir with
  | tell job =>
    rw [Service.stir]
    split
    · next huntold => exact .told p there job move huntold
    · next huntold =>
      refine .idle _ move (Scene.turn?_of_stir move (by simp)) fun job' hjob hmem => ?_
      cases hjob
      exact absurd hmem huntold
  | wake =>
    rw [Service.stir]
    split
    · next hready => exact .woken p there move hready.1
    · exact .idle_of_ne move (by simp) rfl
  | tick =>
    rw [Service.stir]
    split
    · next hready => exact .ticked move hready
    · exact .idle_of_ne move (by simp) rfl
  | look =>
    rw [Service.stir]
    split
    · next claimed hlooking => exact .looked p there move claimed hlooking
    · exact .idle_of_ne move (by simp) rfl
  | claim =>
    rw [Service.stir]
    split
    · next claimed hclaiming =>
      rcases hcall : p.take e.act.moment ⟨e.before.world.tables, e.act.faults⟩
        with ⟨result, q, session⟩
      refine .took p there move claimed hclaiming result q session hcall _ ?_
      cases result with
      | claimed job => exact Or.inl rfl
      | stopped => exact Or.inr rfl
    · next hnot =>
      refine .idle _ move ?_ fun _ h => by cases h
      rw [Scene.turn?, move]
      cases hloop : e.before.loop <;> first | rfl | exact absurd hloop (hnot _)
  | leave =>
    rw [Service.stir]
    split
    · next hready => exact .left p there move hready.2
    · exact .idle_of_ne move (by simp) rfl
  | finish =>
    rw [Service.stir]
    split
    · next hready => exact .finished p there move hready.1 hready.2
    · exact .idle_of_ne move (by simp) rfl

/-- **What a beat does** is in the list. -/
theorem Scene.effect (k : Nat) (e : Scene σ) : Effect k e (e.after k) := by
  have hafter : e.after k = e.before.act k e.act := rfl
  rw [hafter, Service.act]
  cases hmove : e.act.move with
  | other action => exact .other action hmove
  | commit job attempts =>
    dsimp only
    rcases hcall : (Store.enqueue job attempts e.now).execute ⟨e.before.world.tables, e.act.faults⟩
      with ⟨answer, session⟩
    have hnow : e.act.moment.wall = e.now := rfl
    rw [hnow, hcall]
    exact .committed job attempts hmove answer session hcall
  | own stir =>
    dsimp only
    cases hp : e.before.world.processors[k]? with
    | some p => exact Service.stir_effect hp hmove
    | none =>
      refine .idle stir hmove ?_ fun _ _ _ => hp
      rw [Scene.turn?, hmove, hp]
      cases stir <;> first | rfl | (cases e.before.loop <;> rfl)

/-! ## The service as a system

Laws of the system speak of tables, of tasks and of what these stand at, and not of wake-ups or of
cancellations that have not reached anybody. -/

/-- The tasks of a processor, and what they stand at. -/
def Processor.work (p : Processor σ) : List Task × Nat × Admission.Limiter Nat Unit :=
  (p.tasks, p.nextTask, p.limiter)

/-- Two worlds in which the same work is done. -/
structure World.Alike (w w' : World σ) : Prop where
  tables : w'.tables = w.tables
  work : w'.processors.map Processor.work = w.processors.map Processor.work

namespace World.Alike

variable {w w' w'' : World σ}

theorem refl (w : World σ) : w.Alike w := ⟨rfl, rfl⟩

theorem symm (h : w.Alike w') : w'.Alike w := ⟨h.tables.symm, h.work.symm⟩

theorem processor (h : w.Alike w') {k : Nat} {q : Processor σ} (hq : w'.processors[k]? = some q) :
    ∃ p, w.processors[k]? = some p ∧ q.tasks = p.tasks ∧ q.nextTask = p.nextTask ∧
      q.limiter = p.limiter := by
  have hwork := congrArg (·[k]?) h.work
  simp only [List.getElem?_map, hq, Option.map_some] at hwork
  obtain ⟨p, hp, hsame⟩ := Option.map_eq_some_iff.mp hwork.symm
  obtain ⟨htasks, hrest⟩ := Prod.mk.inj hsame.symm
  obtain ⟨hnext, hlimiter⟩ := Prod.mk.inj hrest
  exact ⟨p, hp, htasks, hnext, hlimiter⟩

theorem task? (h : w.Alike w') (k n : Nat) : w'.task? k n = w.task? k n := by
  cases hq : w'.processors[k]? with
  | some q =>
    obtain ⟨p, hp, htasks, -⟩ := h.processor hq
    rw [World.task?_of_processor hq, World.task?_of_processor hp, Processor.task?_of_tasks htasks]
  | none =>
    cases hp : w.processors[k]? with
    | none => rw [World.task?, World.task?, hq, hp]
    | some p =>
      obtain ⟨q, hq', -⟩ := h.symm.processor hp
      rw [hq] at hq'
      cases hq'

theorem holds_iff (h : w.Alike w') (k n : Nat) (id : Int) : w'.Holds k n id ↔ w.Holds k n id := by
  rw [World.Holds, World.Holds, h.task?]

/-- Putting a processor in its place that does the same work. -/
theorem put {k : Nat} {p q : Processor σ} (hp : w.processors[k]? = some p) (hwork : q.work = p.work) :
    w.Alike (w.put k q) where
  tables := rfl
  work := by
    obtain ⟨hk, hget⟩ := List.getElem?_eq_some_iff.mp hp
    rw [World.put, List.map_set, hwork, ← hget]
    refine List.ext_getElem? fun i => ?_
    rw [List.getElem?_set]
    split
    · next hi =>
      subst hi
      rw [List.length_map, if_pos hk, List.getElem?_map, hp, hget, Option.map_some]
    · rfl

end World.Alike

/-- A claim that is let through does the same whether the processor is cancelled by then or not. -/
theorem Processor.take_work (p : Processor σ) (moment : Moment) (session : Session) :
    (({ p with cancelled := false } : Processor σ).claim moment session).2.1.work =
        (p.take moment session).2.1.work ∧
      (({ p with cancelled := false } : Processor σ).claim moment session).2.2 =
        (p.take moment session).2.2 := by
  rw [claim_eq_take, if_neg Bool.false_ne_true, take, take]
  rcases (Store.claimNext moment.wall).execute session with ⟨_ | _ | job, after⟩
  · exact ⟨rfl, rfl⟩
  · exact ⟨rfl, rfl⟩
  · exact ⟨rfl, rfl⟩

theorem Occurrence.after_of_act {e : Occurrence σ} {k : Nat} {deed : Deed σ} {p : Processor σ}
    (haction : e.act.action = .act k deed) (hp : e.before.processors[k]? = some p) :
    e.after = ⟨(p.act deed e.act.moment e.session).2.tables,
      e.before.processors.set k (p.act deed e.act.moment e.session).1⟩ := by
  rw [Occurrence.after, World.act, haction]
  simp only [hp]
  rfl

/-- **A beat is a turn of the system**, or leaves the work there as it is. -/
theorem Scene.world_cases (k : Nat) (e : Scene σ) :
    (e.turn? k = none ∧ e.before.world.Alike (e.after k).world) ∨
    ∃ turn, e.turn? k = some turn ∧ e.before.world.Alike turn.before ∧
      turn.after.Alike (e.after k).world := by
  have heffect := e.effect k
  generalize e.after k = after at heffect
  cases heffect with
  | other action hmove =>
    exact Or.inr ⟨_, by rw [Scene.turn?, hmove], .refl _, .refl _⟩
  | committed job attempts hmove answer session hcall =>
    refine Or.inr ⟨_, by rw [Scene.turn?, hmove], .refl _, ?_, rfl⟩
    change session.tables = (((Operation.enqueue job attempts).call e.now).execute
      ⟨e.before.world.tables, e.act.faults⟩).2.tables
    simp only [Operation.call, Store.Call.execute_map, hcall]
  | idle _ _ hturn => exact Or.inl ⟨hturn, .refl _⟩
  -- wake-ups are no work, so the worlds are alike where one is stored or taken
  | told p hp job hmove =>
    exact Or.inl ⟨Scene.turn?_of_stir hmove (by simp), .put hp rfl⟩
  | woken p hp hmove => exact Or.inl ⟨Scene.turn?_of_stir hmove (by simp), .put hp rfl⟩
  | ticked hmove => exact Or.inl ⟨Scene.turn?_of_stir hmove (by simp), .refl _⟩
  | looked p hp hmove => exact Or.inl ⟨Scene.turn?_of_stir hmove (by simp), .refl _⟩
  | left p hp hmove => exact Or.inl ⟨Scene.turn?_of_stir hmove (by simp), .refl _⟩
  | finished p hp hmove => exact Or.inl ⟨Scene.turn?_of_stir hmove (by simp), .refl _⟩
  | took p hp hmove claimed hclaiming result q session hcall loop =>
    -- the turn is a claim of the processor as the look has seen it, not cancelled
    obtain ⟨hwork, hsession⟩ := p.take_work e.act.moment ⟨e.before.world.tables, e.act.faults⟩
    rw [hcall] at hwork hsession
    have hopen : ({ p with cancelled := false } : Processor σ).work = p.work := rfl
    refine Or.inr ⟨_, by rw [Scene.turn?, hmove, hclaiming, hp], World.Alike.put hp hopen, ?_⟩
    rw [Occurrence.after_of_act rfl (List.getElem?_set_self (List.getElem?_eq_some_iff.mp hp).1)]
    refine ⟨congrArg Session.tables hsession.symm, ?_⟩
    change ((e.before.world.processors.set k q).map Processor.work) =
      ((e.before.world.processors.set k _).set k _).map Processor.work
    rw [List.set_set, List.map_set, List.map_set]
    exact congrArg _ hwork.symm

/-- The turns of the system that others take are of a kind. -/
def Beat.Allows (beat : Beat σ) (allowed : Turn σ → Prop) : Prop :=
  ∀ action, beat.move = .other action → allowed (beat.turn action)

/-- A law of the system that its turns keep, as far as they are allowed. It does not tell worlds apart in
which the same work is done. -/
structure World.Lasts (allowed : Turn σ → Prop) (law : List (Occurrence σ) → World σ → Prop) : Prop where
  alike : ∀ history w w', w.Alike w' → law history w → law history w'
  start : law [] World.empty
  next : ∀ history (e : Occurrence σ), allowed e.act → law history e.before →
    law (history ++ [e]) e.after

namespace World.Lasts

variable {allowed : Turn σ → Prop} {law : List (Occurrence σ) → World σ → Prop}

theorem and (h : World.Lasts allowed law) {law' : List (Occurrence σ) → World σ → Prop}
    (h' : World.Lasts allowed law') :
    World.Lasts allowed fun history w => law history w ∧ law' history w where
  alike history w w' halike := And.imp (h.alike history w w' halike) (h'.alike history w w' halike)
  start := ⟨h.start, h'.start⟩
  next history e hturn := And.imp (h.next history e hturn) (h'.next history e hturn)

/-- What holds right behind a moment and is kept by every later turn holds from then on. -/
theorem since (h : World.Lasts allowed law)
    {since : List (Occurrence σ) → Occurrence σ → List (Occurrence σ) → World σ → Prop}
    (alike : ∀ earlier e later w w', w.Alike w' → since earlier e later w → since earlier e later w')
    (start : ∀ earlier (e : Occurrence σ), allowed e.act → law earlier e.before →
      since earlier e [] e.after)
    (next : ∀ earlier e later (x : Occurrence σ), allowed x.act → law (earlier ++ e :: later) x.before →
      since earlier e later x.before → since earlier e (later ++ [x]) x.after) :
    World.Lasts allowed fun history w => law history w ∧
      ∀ earlier e later, history = earlier ++ e :: later → since earlier e later w where
  alike history w w' halike := And.imp (h.alike history w w' halike) fun hall earlier e later hsplit =>
    alike earlier e later w w' halike (hall earlier e later hsplit)
  start := ⟨h.start, fun earlier e later hsplit => by simp at hsplit⟩
  next history x hturn := by
    rintro ⟨hlaw, hall⟩
    refine ⟨h.next history x hturn hlaw, fun earlier e later hsplit => ?_⟩
    rcases List.eq_nil_or_concat' later with rfl | ⟨middle, last, rfl⟩
    · obtain ⟨rfl, hlast⟩ := List.append_inj' hsplit rfl
      cases hlast
      exact start history x hturn hlaw
    · rw [← List.cons_append, ← List.append_assoc] at hsplit
      obtain ⟨rfl, hlast⟩ := List.append_inj' hsplit rfl
      cases hlast
      exact next earlier e middle x hturn hlaw (hall earlier e middle rfl)

end World.Lasts

theorem Scene.turn?_allowed {k : Nat} {e : Scene σ} {turn : Occurrence σ} {allowed : Turn σ → Prop}
    (henqueue : ∀ (beat : Beat σ) job attempts, allowed (beat.turn (.ask (.enqueue job attempts))))
    (hclaim : ∀ beat : Beat σ, allowed (beat.turn (.act k .claim))) (hbeat : e.act.Allows allowed)
    (h : e.turn? k = some turn) : allowed turn.act := by
  rw [Scene.turn?] at h
  split at h
  · next action hmove =>
    cases h
    exact hbeat action hmove
  · cases h
    exact henqueue _ _ _
  · split at h <;> cases h
    exact hclaim _
  · cases h

theorem turnsOf_snoc (k : Nat) (scenes : List (Scene σ)) (e : Scene σ) :
    turnsOf k (scenes ++ [e]) = turnsOf k scenes ++ (e.turn? k).toList :=
  Run.filterMap_snoc _ scenes e

/-- **Laws of the system are laws of the service.** -/
theorem Service.law_of_world {allowed : Turn σ → Prop} {law : List (Occurrence σ) → World σ → Prop}
    (h : World.Lasts allowed law) {k : Nat}
    (henqueue : ∀ (beat : Beat σ) job attempts, allowed (beat.turn (.ask (.enqueue job attempts))))
    (hclaim : ∀ beat : Beat σ, allowed (beat.turn (.act k .claim))) (beats : List (Beat σ))
    (hbeats : ∀ beat ∈ beats, beat.Allows allowed) :
    law (turnsOf k (Service.start.scenes k beats)) (Service.start.actAll k beats).world := by
  refine @Run.invariant _ _ (Service.act k) (·.Allows allowed)
    (fun scenes s => law (turnsOf k scenes) s.world) Service.start h.start
    (fun scenes s beat hbeat hlaw => ?_) beats hbeats
  rw [turnsOf_snoc]
  rcases Scene.world_cases k ⟨s, beat⟩ with ⟨hnone, halike⟩ | ⟨turn, hturn, hbefore, hafter⟩
  · rw [hnone, Option.toList_none, List.append_nil]
    exact h.alike _ _ _ halike hlaw
  · have hallowed := Scene.turn?_allowed henqueue hclaim hbeat hturn
    rw [hturn, Option.toList_some]
    exact h.alike _ _ _ hafter (h.next _ turn hallowed (h.alike _ _ _ hbefore hlaw))

/-! ## What a processor remembers -/

namespace Processor

@[simp] theorem moveTo_wakeUp (p : Processor σ) (n : Nat) (phase : Phase) :
    (p.moveTo n phase).wakeUp = p.wakeUp := by
  unfold moveTo
  split <;> rfl

@[simp] theorem moveTo_cancelled (p : Processor σ) (n : Nat) (phase : Phase) :
    (p.moveTo n phase).cancelled = p.cancelled := by
  unfold moveTo
  split <;> rfl

/-- Tasks neither wake nor cancel their processor. -/
theorem step_flags (p : Processor σ) (task : Task) (moment : Moment) (draw : Nat) (s : Session) :
    (p.step task moment draw s).1.wakeUp = p.wakeUp ∧
      (p.step task moment draw s).1.cancelled = p.cancelled := by
  obtain ⟨n, job, phase⟩ := task
  unfold step
  cases phase <;> dsimp only
  case checking =>
    rcases (Store.isProcessed job.id).execute s with ⟨_ | _ | _, _⟩ <;> simp
  case admitted =>
    rcases p.registry.dispatch (JobContext.ofJob job) job.payload p.collaborators with ⟨_ | _, _⟩ <;>
      simp [finish]
  case running =>
    rcases p.registry.resume (JobContext.ofJob job) p.collaborators with _ | ⟨_, _⟩ <;> simp [finish]
  case completing =>
    rcases (Store.completeProcessed job.id moment.wall).execute s with ⟨_ | _, _⟩ <;> simp
  case archiving message =>
    rcases (Store.archive job message moment.wall).execute s with ⟨_ | _, _⟩ <;> simp
  all_goals simp

/-- A wake-up is stored until the loop takes it, and nobody takes a cancellation back. -/
theorem act_flags (p : Processor σ) (deed : Deed σ) (moment : Moment) (s : Session) :
    (p.wakeUp = true → (p.act deed moment s).1.wakeUp = true) ∧
      (p.cancelled = true → (p.act deed moment s).1.cancelled = true) := by
  cases deed with
  | produce job attempts =>
    rw [act, Producer.enqueue]
    rcases (Store.enqueue job attempts moment.wall).execute s with ⟨_ | _, _⟩
    · exact ⟨id, id⟩
    · exact ⟨fun _ => rfl, id⟩
  | claim =>
    rw [act, Processor.claim]
    split
    · exact ⟨id, id⟩
    · rcases (Store.claimNext moment.wall).execute s with ⟨_ | _ | job, _⟩ <;> exact ⟨id, id⟩
  | step n draw =>
    simp only [act]
    cases p.task? n with
    | none => exact ⟨id, id⟩
    | some task =>
      obtain ⟨hwake, hcancelled⟩ := p.step_flags task moment draw s
      rw [hwake, hcancelled]
      exact ⟨id, id⟩
  | lose n =>
    rw [act, lose, moveTo_wakeUp, moveTo_cancelled]
    exact ⟨id, id⟩
  | cancel => exact ⟨id, fun _ => rfl⟩
  | rescue | register | disturb => exact ⟨id, id⟩

end Processor

namespace Occurrence

variable {e : Occurrence σ}

/-- A processor behind a turn stood there before, or is new, or has done something. -/
theorem processor_before {k : Nat} {q : Processor σ} (hq : e.after.processors[k]? = some q) :
    e.before.processors[k]? = some q ∨
    (e.before.processors[k]? = none ∧ ∃ config registry limiter collaborators,
      e.act.action = .launch config registry limiter collaborators ∧
      q = Processor.create config registry limiter collaborators) ∨
    ∃ p deed, e.before.processors[k]? = some p ∧ e.act.action = .act k deed ∧
      q = (p.act deed e.act.moment e.session).1 := by
  cases haction : e.act.action with
  | ask operation =>
    rw [Occurrence.after, World.act, haction] at hq
    exact Or.inl hq
  | launch config registry limiter collaborators =>
    rw [Occurrence.after, World.act, haction] at hq
    dsimp only at hq
    rw [List.getElem?_append] at hq
    split at hq
    · exact Or.inl hq
    · next hk =>
      have hnew := List.mem_singleton.mp (List.mem_of_getElem? hq)
      exact Or.inr (Or.inl ⟨List.getElem?_eq_none (Nat.not_lt.mp hk), config, registry, limiter,
        collaborators, rfl, hnew⟩)
  | act j deed =>
    cases hj : e.before.processors[j]? with
    | none =>
      rw [Occurrence.after, World.act, haction] at hq
      simp only [hj] at hq
      exact Or.inl hq
    | some p =>
      rw [after_of_act haction hj] at hq
      dsimp only at hq
      by_cases hkj : j = k
      · subst hkj
        rw [List.getElem?_set_self (List.getElem?_eq_some_iff.mp hj).1] at hq
        exact Or.inr (Or.inr ⟨p, deed, hj, rfl, (Option.some.inj hq).symm⟩)
      · rw [List.getElem?_set_ne hkj] at hq
        exact Or.inl hq

theorem keeps_flags {k : Nat} {p : Processor σ} (hp : e.before.processors[k]? = some p) :
    ∃ q, e.after.processors[k]? = some q ∧ (p.wakeUp = true → q.wakeUp = true) ∧
      (p.cancelled = true → q.cancelled = true) := by
  obtain ⟨q, hq, -⟩ := Occurrence.after_processor hp
  refine ⟨q, hq, ?_⟩
  rcases processor_before hq with hsame | ⟨hnone, -⟩ | ⟨p', deed, hp', -, rfl⟩
  · cases hp.symm.trans hsame
    exact ⟨id, id⟩
  · rw [hp] at hnone
    cases hnone
  · cases hp.symm.trans hp'
    exact p.act_flags deed _ _

end Occurrence

end DurableJobs
