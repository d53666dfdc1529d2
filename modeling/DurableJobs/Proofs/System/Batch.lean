import DurableJobs.Proofs.Store.DueOrder
import DurableJobs.Proofs.System.Service

/-!
# A pass over the due jobs

A pass looks and claims in turns until its batch is full or a claim brings nothing. As long as nobody else
touches the store or the tasks in between, every claim takes the head of the queue of due rows, so where a
pass stands is told by the rows that it has taken: a front of the queue, no longer than a batch
(`Midway`). One turn of the pass keeps that, and whatever does not concern it does so anyway.
-/

set_option autoImplicit false

namespace DurableJobs

open Store (Taking)

variable {σ : Type} {k : Nat}

/-! ## What a pass meets -/

namespace Scene

/-- The loop takes a turn of its pass: it looks, or it claims, whichever it is about to do. -/
def turns (e : Scene σ) : Bool :=
  match e.before.loop, e.act.move with
  | .looking _, .own .look | .claiming _, .own .claim => true
  | _, _ => false

/-- The number of claims that a pass returns with. -/
def returns? (k : Nat) (e : Scene σ) : Option Nat :=
  match e.before.loop, (e.after k).loop with
  | .looking claimed, .waiting | .claiming claimed, .waiting => some claimed
  | _, _ => none

/-- A beat that does not concern the pass: it leaves the tables, the loop, the tasks and the cancellation of
the processor as they are. -/
structure Aside (k : Nat) (e : Scene σ) : Prop where
  tables : (e.after k).world.tables = e.before.world.tables
  loop : (e.after k).loop = e.before.loop
  processor : ∀ p, e.before.world.processors[k]? = some p →
    ∃ q, (e.after k).world.processors[k]? = some q ∧ q.tasks = p.tasks ∧ q.nextTask = p.nextTask ∧
      q.config = p.config ∧ q.cancelled = p.cancelled

/-- The loop claims in a pass. -/
def Claims (e : Scene σ) : Prop := e.act.move = .own .claim ∧ e.before.loop.claims = true

/-- A beat of a pass that began with some tables at some time. Nothing happens but looks, claims and what
does not concern the pass; no claim fails, and at its time the same rows are due as when the pass began. -/
structure Undisturbed (k : Nat) (tables : Store.Tables) (began : Instant) (e : Scene σ) : Prop where
  own : e.act.move = .own .look ∨ e.act.move = .own .claim ∨ e.Aside k
  answered : e.Claims → ∀ error, ((Store.claimNext e.now).execute
    ⟨e.before.world.tables, e.act.faults⟩).1 ≠ .error error
  dated : e.Claims → e.now.Dated
  same : e.Claims → ∀ row ∈ tables.jobs, row.Due e.now ↔ row.Due began

end Scene

/-! ## Where a pass stands -/

/-- The tasks for jobs that have been claimed, in order, numbered from some number on. -/
def tasksFor (takings : List Taking) (first : Nat) : List Task :=
  (takings.zipIdx first).map fun (taking, n) => ⟨n, taking.job, .checking⟩

/-- Where the loop stands when so many jobs have been claimed, how many turns it has taken and what it has
returned. -/
inductive Stands (batch due claimed : Nat) : Loop → Nat → List Nat → Prop where
  | looking : Stands batch due claimed (.looking claimed) (2 * claimed) []
  | claiming (more : claimed < batch) : Stands batch due claimed (.claiming claimed) (2 * claimed + 1) []
  | ended (turns : Nat) (few : turns ≤ 2 * claimed + 2) (full : claimed = min batch due) :
      Stands batch due claimed .waiting turns [claimed]

/-- Behind some beats of a pass, that began with a service and its processor, some claims have been made. -/
structure Midway (k : Nat) (s : Service σ) (p : Processor σ) (began : Instant) (takings : List Taking)
    (scenes : List (Scene σ)) (s' : Service σ) : Prop where
  rows : takings.map (·.row) = (s.world.tables.dueInOrder began).take takings.length
  within : takings.length ≤ p.config.claimBatchSize
  tables : s'.world.tables = s.world.tables.taken takings
  processor : ∃ q, s'.world.processors[k]? = some q ∧
    q.tasks = p.tasks ++ tasksFor takings p.nextTask ∧ q.nextTask = p.nextTask + takings.length ∧
    q.config = p.config ∧ q.cancelled = false
  stands : Stands p.config.claimBatchSize (s.world.tables.dueInOrder began).length takings.length s'.loop
    (scenes.countP (·.turns)) (scenes.filterMap (·.returns? k))

section Step

variable {s : Service σ} {p : Processor σ} {began : Instant} {takings : List Taking}
  {scenes : List (Scene σ)} {e : Scene σ}

theorem Midway.length_le {s' : Service σ} (h : Midway k s p began takings scenes s') :
    takings.length ≤ (s.world.tables.dueInOrder began).length := by
  have hlength := congrArg List.length h.rows
  rw [List.length_map, List.length_take] at hlength
  omega

/-- A beat that does not concern the pass leaves it where it is. -/
theorem Midway.aside (h : Midway k s p began takings scenes e.before) (haside : e.Aside k)
    (hturns : e.turns = false) : Midway k s p began takings (scenes ++ [e]) (e.after k) := by
  obtain ⟨q, hq, htasks, hnext, hconfig, hopen⟩ := h.processor
  obtain ⟨q', hq', htasks', hnext', hconfig', hopen'⟩ := haside.processor q hq
  have hreturns : e.returns? k = none := by
    unfold Scene.returns?
    rw [haside.loop]
    cases e.before.loop <;> rfl
  refine ⟨h.rows, h.within, haside.tables.trans h.tables, ⟨q', hq', htasks'.trans htasks,
    hnext'.trans hnext, hconfig'.trans hconfig, hopen'.trans hopen⟩, ?_⟩
  rw [haside.loop, Run.countP_snoc, Run.filterMap_snoc, hturns, hreturns]
  simpa using h.stands

/-- A look or a claim that is not the turn of the loop does nothing. -/
theorem Scene.aside_of_idle (hown : e.act.move = .own .look ∨ e.act.move = .own .claim)
    (hturns : e.turns = false) : e.Aside k := by
  have hsame : e.after k = e.before := by
    have heffect := e.effect k
    generalize e.after k = after at heffect
    cases heffect with
    | idle => rfl
    | looked _ _ hmove _ hlooking =>
      rw [Scene.turns, hlooking, hmove] at hturns
      cases hturns
    | took _ _ hmove _ hclaiming =>
      rw [Scene.turns, hclaiming, hmove] at hturns
      cases hturns
    | _ => simp_all
  exact ⟨by rw [hsame], by rw [hsame], fun q hq => ⟨q, by rw [hsame, hq], rfl, rfl, rfl, rfl⟩⟩

theorem Scene.Undisturbed.aside {tables : Store.Tables} (h : e.Undisturbed k tables began)
    (hturns : e.turns = false) : e.Aside k := by
  rcases h.own with hlook | hclaim | haside
  · exact Scene.aside_of_idle (Or.inl hlook) hturns
  · exact Scene.aside_of_idle (Or.inr hclaim) hturns
  · exact haside

theorem Midway.at_look (h : Midway k s p began takings scenes e.before) {n : Nat}
    (hloop : e.before.loop = .looking n) :
    n = takings.length ∧ scenes.countP (·.turns) = 2 * takings.length ∧
      scenes.filterMap (·.returns? k) = [] := by
  have hstands := h.stands
  rw [hloop] at hstands
  generalize scenes.countP (·.turns) = turns at hstands ⊢
  generalize scenes.filterMap (·.returns? k) = returned at hstands ⊢
  cases hstands
  exact ⟨rfl, rfl, rfl⟩

theorem Midway.at_claim (h : Midway k s p began takings scenes e.before) {n : Nat}
    (hloop : e.before.loop = .claiming n) :
    n = takings.length ∧ takings.length < p.config.claimBatchSize ∧
      scenes.countP (·.turns) = 2 * takings.length + 1 ∧ scenes.filterMap (·.returns? k) = [] := by
  have hstands := h.stands
  rw [hloop] at hstands
  generalize scenes.countP (·.turns) = turns at hstands ⊢
  generalize scenes.filterMap (·.returns? k) = returned at hstands ⊢
  cases hstands with
  | claiming more => exact ⟨rfl, more, rfl, rfl⟩

/-- The loop looks: the pass goes on as long as there is room in its batch. -/
theorem Midway.look (h : Midway k s p began takings scenes e.before) (hmove : e.act.move = .own .look)
    {n : Nat} (hloop : e.before.loop = .looking n) :
    Midway k s p began takings (scenes ++ [e]) (e.after k) := by
  obtain ⟨q, hq, htasks, hnext, hconfig, hopen⟩ := h.processor
  obtain ⟨rfl, hcount, hreturned⟩ := h.at_look hloop
  have hwithin := h.within
  have hlength := h.length_le
  have hafter : e.after k = { e.before with
      loop := if takings.length < p.config.claimBatchSize then .claiming takings.length else .waiting } := by
    simp [Scene.after, Service.act, hmove, hq, Service.stir, hloop, Processor.goesOn, hconfig, hopen]
  have hturns : e.turns = true := by rw [Scene.turns, hloop, hmove]
  refine ⟨h.rows, h.within, by rw [hafter, ← h.tables], ⟨q, by rw [hafter, ← hq], htasks, hnext, hconfig,
    hopen⟩, ?_⟩
  rw [Run.countP_snoc, Run.filterMap_snoc, hturns, hcount, hreturned, Scene.returns?, hloop, hafter]
  by_cases hroom : takings.length < p.config.claimBatchSize
  · simp only [if_pos hroom]
    exact .claiming hroom
  · simp only [if_neg hroom]
    exact .ended _ (Nat.le_succ _) (by omega)

/-- The loop claims a job: it starts a task for it and looks again. -/
theorem Scene.after_claim {q : Processor σ} (hq : e.before.world.processors[k]? = some q)
    (hmove : e.act.move = .own .claim) {n : Nat} (hloop : e.before.loop = .claiming n) {job : Job}
    {session : Store.Session}
    (hcall : (Store.claimNext e.now).execute ⟨e.before.world.tables, e.act.faults⟩ =
      (.ok (some job), session)) :
    e.after k = ⟨{ e.before.world.put k (q.spawn job) with tables := session.tables }, .looking (n + 1),
      e.before.untold⟩ := by
  have hwall : (Store.claimNext e.act.moment.wall).execute ⟨e.before.world.tables, e.act.faults⟩ =
      (.ok (some job), session) := hcall
  rw [Scene.after, Service.act, hmove]
  simp only [hq, Service.stir, hloop, Processor.take, hwall]

/-- The loop claims and finds nothing: the pass is over. -/
theorem Scene.after_claim_nothing {q : Processor σ} (hq : e.before.world.processors[k]? = some q)
    (hmove : e.act.move = .own .claim) {n : Nat} (hloop : e.before.loop = .claiming n)
    {session : Store.Session}
    (hcall : (Store.claimNext e.now).execute ⟨e.before.world.tables, e.act.faults⟩ =
      (.ok none, session)) :
    e.after k = ⟨{ e.before.world.put k q with tables := session.tables }, .waiting, e.before.untold⟩ := by
  have hwall : (Store.claimNext e.act.moment.wall).execute ⟨e.before.world.tables, e.act.faults⟩ =
      (.ok none, session) := hcall
  rw [Scene.after, Service.act, hmove]
  simp only [hq, Service.stir, hloop, Processor.take, hwall]

theorem World.put_processor {w : World σ} {q q' : Processor σ} (hq : w.processors[k]? = some q) :
    (w.put k q').processors[k]? = some q' :=
  List.getElem?_set_self (List.getElem?_eq_some_iff.mp hq).1

/-- A task for one more claim. -/
theorem tasksFor_snoc (takings : List Taking) (taking : Taking) (first : Nat) :
    tasksFor (takings ++ [taking]) first =
      tasksFor takings first ++ [⟨first + takings.length, taking.job, .checking⟩] := by
  rw [tasksFor, List.zipIdx_append, List.map_append]
  rfl

/-- The loop claims and finds the queue empty: the pass is over. -/
theorem Midway.claims_nothing (h : Midway k s p began takings scenes e.before)
    (hmove : e.act.move = .own .claim) {n : Nat} (hloop : e.before.loop = .claiming n)
    (hall : (s.world.tables.dueInOrder began).length ≤ takings.length) {faults : List Bool}
    (hcall : (Store.claimNext e.now).execute ⟨e.before.world.tables, e.act.faults⟩ =
      (.ok none, ⟨e.before.world.tables, faults⟩)) :
    Midway k s p began takings (scenes ++ [e]) (e.after k) := by
  obtain ⟨q, hq, htasks, hnext, hconfig, hopen⟩ := h.processor
  obtain ⟨rfl, hroom, hcount, hreturned⟩ := h.at_claim hloop
  have hlength := h.length_le
  have hafter := Scene.after_claim_nothing hq hmove hloop hcall
  have hturns : e.turns = true := by rw [Scene.turns, hloop, hmove]
  refine ⟨h.rows, h.within, by rw [hafter]; exact h.tables,
    ⟨q, by rw [hafter]; exact World.put_processor hq, htasks, hnext, hconfig, hopen⟩, ?_⟩
  rw [Run.countP_snoc, Run.filterMap_snoc, hturns, hcount, hreturned, Scene.returns?, hloop, hafter]
  exact .ended _ (Nat.le_refl _) (by omega)

/-- The loop claims the head of what is left of the queue: it is one more taking. -/
theorem Midway.claims_job (h : Midway k s p began takings scenes e.before)
    (ho : s.world.tables.Ordered) (hmove : e.act.move = .own .claim) {n : Nat}
    (hloop : e.before.loop = .claiming n) {row : Store.Row} {job : Job}
    (hread : (row.claimed e.now).read? = some job)
    (hhead : (s.world.tables.dueInOrder began)[takings.length]? = some row) {faults : List Bool}
    (hcall : (Store.claimNext e.now).execute ⟨e.before.world.tables, e.act.faults⟩ =
      (.ok (some job),
        ⟨(e.before.world.tables.updateJobs (·.id == row.id) (·.claimed e.now)).2, faults⟩)) :
    Midway k s p began (takings ++ [⟨row, e.now, job, hread⟩]) (scenes ++ [e]) (e.after k) := by
  obtain ⟨q, hq, htasks, hnext, hconfig, hopen⟩ := h.processor
  obtain ⟨rfl, hroom, hcount, hreturned⟩ := h.at_claim hloop
  have hafter := Scene.after_claim hq hmove hloop hcall
  have hturns : e.turns = true := by rw [Scene.turns, hloop, hmove]
  obtain ⟨⟨hmem, -⟩, hnew⟩ := (ho.mem_rest h.rows).mp
    (List.mem_of_mem_head? (Option.mem_def.mpr (by rw [List.head?_drop, hhead])))
  refine ⟨?_, ?_, ?_, ⟨q.spawn job, ?_, ?_, ?_, hconfig, hopen⟩, ?_⟩
  · rw [List.map_append, List.length_append, h.rows, List.length_singleton, List.take_add_one, hhead]
    rfl
  · rw [List.length_append]
    exact hroom
  · rw [hafter]
    dsimp only
    rw [h.tables]
    exact ho.taken_snoc ⟨row, e.now, job, hread⟩ hmem hnew
  · rw [hafter]
    exact World.put_processor hq
  · rw [Processor.spawn, htasks, hnext, tasksFor_snoc, List.append_assoc]
  · rw [Processor.spawn, hnext, List.length_append]
    rfl
  · rw [Run.countP_snoc, Run.filterMap_snoc, hturns, hcount, hreturned, Scene.returns?, hloop, hafter,
      List.length_append]
    exact .looking

/-- **The loop claims**: it takes the row at the head of what is left of the queue and starts a task for it,
or finds the queue empty. -/
theorem Midway.claim (h : Midway k s p began takings scenes e.before) (ho : s.world.tables.Ordered)
    (hpending : ∀ row ∈ s.world.tables.jobs, row.hasStatus .pending = true → row.runAt.Dated)
    (hquiet : e.Undisturbed k s.world.tables began) (hmove : e.act.move = .own .claim) {n : Nat}
    (hloop : e.before.loop = .claiming n) :
    ∃ takings', Midway k s p began takings' (scenes ++ [e]) (e.after k) := by
  have hclaims : e.Claims := ⟨hmove, by rw [hloop]; rfl⟩
  have hcandidate := ho.candidate?_taken hpending h.rows (hquiet.dated hclaims) (hquiet.same hclaims)
  rw [← h.tables] at hcandidate
  rcases Store.claimNext_cases e.now ⟨e.before.world.tables, e.act.faults⟩
    with ⟨error, after, hcall, -⟩ | ⟨hnone, hcall⟩ | ⟨row, hfirst, hcall⟩
  · exact absurd (by rw [hcall]) (hquiet.answered hclaims error)
  · rw [hnone, eq_comm, List.getElem?_eq_none_iff] at hcandidate
    exact ⟨takings, h.claims_nothing hmove hloop hcandidate hcall⟩
  · rw [hfirst, eq_comm] at hcandidate
    cases hanswer : (row.claimed e.now).answer with
    | error error => exact absurd (by rw [hcall, hanswer]; rfl) (hquiet.answered hclaims error)
    | ok job =>
      rw [hanswer] at hcall
      exact ⟨_, h.claims_job ho hmove hloop (Store.Row.answer_eq_ok.mp hanswer) hcandidate hcall⟩

/-- Whatever happens in a pass that is undisturbed, more of the queue has been taken behind it or as much. -/
theorem Midway.next (h : Midway k s p began takings scenes e.before) (ho : s.world.tables.Ordered)
    (hpending : ∀ row ∈ s.world.tables.jobs, row.hasStatus .pending = true → row.runAt.Dated)
    (hquiet : e.Undisturbed k s.world.tables began) :
    ∃ takings', Midway k s p began takings' (scenes ++ [e]) (e.after k) := by
  cases hturns : e.turns with
  | false => exact ⟨takings, h.aside (hquiet.aside hturns) hturns⟩
  | true =>
    unfold Scene.turns at hturns
    split at hturns
    · next hloop hmove => exact ⟨takings, h.look hmove hloop⟩
    · next hloop hmove => exact h.claim ho hpending hquiet hmove hloop
    · cases hturns

end Step

section Run

variable {s : Service σ} {p : Processor σ} {began : Instant}

/-- The loop is in a pass. -/
def Loop.passes : Loop → Bool
  | .looking _ | .claiming _ => true
  | _ => false

end Run

end DurableJobs
