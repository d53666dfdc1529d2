import DurableJobs.Proofs.Store.Lineage
import DurableJobs.Proofs.System.Claims
import DurableJobs.Proofs.System.Service
import DurableJobs.Proofs.Time.StoredOrder

/-!
# No wake-up is lost

Wake-ups are stored one at a time, the loop may be at work when one comes, and the tick may win over it.
What makes up for all that is the order: a producer has its job in the store before it wakes, and a pass
begins with the wake-up taken. So a producer that has woken the loop either left a wake-up that is still
there, or some pass has begun since (`Heard`).

A pass that ends without a due job has met none. A job that was in the store by then has left the state
in which it was put in, and only claims and cancellations take a row from there (`Awaited`).
-/

set_option autoImplicit false

namespace DurableJobs

open Store (Operation Reply)

variable {σ : Type} {k : Nat}

/-! ## Jobs of producers -/

namespace Occurrence

/-- A job is put in. -/
def Enqueues (e : Occurrence σ) (job : Job) : Prop :=
  (∃ new attempts, e.operation? = some (.enqueue new attempts)) ∧ e.reply? = some (.ok (.job job))

/-- A claim or a cancellation takes the row of an id. -/
def Takes (e : Occurrence σ) (id : Int) : Prop :=
  (e.operation? = some .claimNext ∨ e.operation? = some (.cancel id)) ∧
    e.before.tables.job? id ≠ e.after.tables.job? id

end Occurrence

namespace Scene

/-- A producer puts a job in. -/
def Commits (k : Nat) (e : Scene σ) (job : Job) : Prop :=
  (∃ new attempts, e.act.move = .commit new attempts) ∧
    ∃ turn, e.turn? k = some turn ∧ turn.Enqueues job

/-- A producer has woken the loop for its job, and returns the job. -/
def Returns (k : Nat) (e : Scene σ) (job : Job) : Prop :=
  e.act.move = .own (.tell job) ∧ job ∈ e.before.untold ∧
    ∃ p, e.before.world.processors[k]? = some p

/-- A claim or a cancellation takes the row of an id. -/
def Takes (k : Nat) (e : Scene σ) (id : Int) : Prop := ∃ turn, e.turn? k = some turn ∧ turn.Takes id

/-- The loop claims, and no job is due. -/
def FindsNone (k : Nat) (e : Scene σ) : Prop :=
  e.act.move = .own .claim ∧ ∃ turn, e.turn? k = some turn ∧ turn.reply? = some (.ok (.claimed none))

end Scene

/-! ## Wake-ups -/

/-- The latest pass has begun when a job was in. -/
def BegunSince (k : Nat) (history : List (Scene σ)) (job : Job) : Prop :=
  ∃ earlier b later, history = earlier ++ b :: later ∧ b.begins k = true ∧
    (∀ c ∈ later, c.begins k = false) ∧ ∃ c ∈ earlier, c.Commits k job

/-- Whoever has woken the loop has its job in, and the wake-up is still there or has come to a pass. -/
structure Heard (k : Nat) (history : List (Scene σ)) (s : Service σ) : Prop where
  untold : ∀ job ∈ s.untold, ∃ c ∈ history, c.Commits k job
  returned : ∀ job, (∃ c ∈ history, c.Returns k job) → ∃ c ∈ history, c.Commits k job
  heard : ∀ job, (∃ c ∈ history, c.Returns k job) → s.woken k = true ∨ BegunSince k history job

theorem Service.woken_put {w : World σ} {p : Processor σ} (hp : w.processors[k]? = some p)
    (q : Processor σ) (tables : Store.Tables) (loop : Loop) (untold : List Job) :
    Service.woken k ⟨{ w.put k q with tables }, loop, untold⟩ = q.wakeUp := by
  have hk := (List.getElem?_eq_some_iff.mp hp).1
  simp [Service.woken, World.put, List.getElem?_set_self hk]

theorem Service.woken_of_processor {s : Service σ} {p : Processor σ}
    (hp : s.world.processors[k]? = some p) : s.woken k = p.wakeUp := by
  simp [Service.woken, hp]

theorem Processor.take_wakeUp {p q : Processor σ} {moment : Moment} {s after : Store.Session}
    {result : Processor.ClaimResult} (h : p.take moment s = (result, q, after)) :
    q.wakeUp = p.wakeUp := by
  rw [take] at h
  rcases hcall : (Store.claimNext moment.wall).execute s with ⟨_ | _ | job, session⟩ <;>
    rw [hcall] at h <;> cases h <;> rfl

variable {history : List (Scene σ)} {e : Scene σ}

namespace Scene

/-- A wake-up is there until a pass begins. -/
theorem keeps_wakeUp (hbegins : e.begins k = false) (hwoken : e.before.woken k = true) :
    (e.after k).woken k = true := by
  have heffect := e.effect k
  generalize hafter : e.after k = after at heffect
  rw [begins, hafter] at hbegins
  cases heffect with
  | other action =>
    cases hp : e.before.world.processors[k]? with
    | none =>
      rw [Service.woken, hp] at hwoken
      cases hwoken
    | some p =>
      obtain ⟨q, hq, hkeeps, -⟩ := Occurrence.keeps_flags (e := ⟨e.before.world, e.act.turn action⟩) hp
      rw [Service.woken_of_processor hp] at hwoken
      exact (Service.woken_of_processor hq).trans (hkeeps hwoken)
  | told p hp => exact Service.woken_put hp _ _ _ _
  | woken p hp _ hwaiting => exact absurd ⟨hwaiting, rfl⟩ (of_decide_eq_false hbegins)
  | took p hp _ _ _ _ q session hcall =>
    rw [Service.woken_of_processor hp] at hwoken
    rw [Service.woken_put hp, Processor.take_wakeUp hcall, hwoken]
  | committed | idle | ticked | looked | left | finished => exact hwoken

/-- A job that waits for its producer to wake the loop has waited before, or has just been put in. -/
theorem untold_after {job : Job} (h : job ∈ (e.after k).untold) :
    job ∈ e.before.untold ∨ e.Commits k job := by
  have heffect := e.effect k
  generalize e.after k = after at heffect h
  cases heffect with
  | committed new attempts hmove answer session hcall =>
    rcases List.mem_append.mp h with hnew | hold
    · refine Or.inr ⟨⟨new, attempts, hmove⟩, _, by rw [turn?, hmove], ⟨new, attempts, rfl⟩, ?_⟩
      change some (((Operation.enqueue new attempts).call e.now).execute
        ⟨e.before.world.tables, e.act.faults⟩).1 = _
      simp only [Operation.call, Store.Call.execute_map, hcall]
      cases answer with
      | error => cases hnew
      | ok created =>
        cases List.mem_singleton.mp hnew
        rfl
    · exact Or.inl hold
  | told => exact Or.inl (List.mem_of_mem_erase h)
  | other | idle | woken | ticked | looked | took | left | finished => exact Or.inl h

/-- Whoever returns a job has woken the loop. -/
theorem woken_of_returns {job : Job} (h : e.Returns k job) : (e.after k).woken k = true := by
  obtain ⟨hmove, huntold, p, hp⟩ := h
  rw [after, Service.act, hmove]
  simp only [hp, Service.stir, if_pos huntold]
  exact Service.woken_put hp _ _ _ _

end Scene

theorem BegunSince.snoc {job : Job} (h : BegunSince k history job) (hbegins : e.begins k = false) :
    BegunSince k (history ++ [e]) job := by
  obtain ⟨earlier, b, later, rfl, hb, hlatest, hcommits⟩ := h
  refine ⟨earlier, b, later ++ [e], by simp, hb, Run.forall_mem_snoc hlatest hbegins, hcommits⟩

namespace Heard

theorem start : Heard k [] (Service.start : Service σ) where
  untold _ h := nomatch h
  returned := by
    rintro _ ⟨_, h, -⟩
    cases h
  heard := by
    rintro _ ⟨_, h, -⟩
    cases h

theorem untold_next (h : Heard k history e.before) {job : Job} (hjob : job ∈ (e.after k).untold) :
    ∃ c ∈ history ++ [e], c.Commits k job := by
  rcases Scene.untold_after hjob with hold | hnew
  · obtain ⟨c, hc, hcommits⟩ := h.untold job hold
    exact ⟨c, List.mem_append_left _ hc, hcommits⟩
  · exact ⟨e, by simp, hnew⟩

/-- Whoever returns a job has had it among those that wait for it. -/
theorem committed (h : Heard k history e.before) {job : Job}
    (hjob : ∃ c ∈ history ++ [e], c.Returns k job) : ∃ c ∈ history, c.Commits k job := by
  obtain ⟨c, hc, hreturns⟩ := hjob
  rcases List.mem_append.mp hc with hold | hlast
  · exact h.returned job ⟨c, hold, hreturns⟩
  · rw [List.mem_singleton.mp hlast] at hreturns
    exact h.untold job hreturns.2.1

theorem heard_next (h : Heard k history e.before) {job : Job}
    (hjob : ∃ c ∈ history ++ [e], c.Returns k job) :
    (e.after k).woken k = true ∨ BegunSince k (history ++ [e]) job := by
  have hcommits := h.committed hjob
  cases hbegins : e.begins k with
  | true => exact Or.inr ⟨history, e, [], rfl, hbegins, List.forall_mem_nil _, hcommits⟩
  | false =>
    obtain ⟨c, hc, hreturns⟩ := hjob
    rcases List.mem_append.mp hc with hold | hlast
    · rcases h.heard job ⟨c, hold, hreturns⟩ with hwoken | hbegun
      · exact Or.inl (Scene.keeps_wakeUp hbegins hwoken)
      · exact Or.inr (hbegun.snoc hbegins)
    · rw [List.mem_singleton.mp hlast] at hreturns
      exact Or.inl (Scene.woken_of_returns hreturns)

theorem next (h : Heard k history e.before) : Heard k (history ++ [e]) (e.after k) where
  untold _ := h.untold_next
  returned job hjob := by
    obtain ⟨c, hc, hcommits⟩ := h.committed hjob
    exact ⟨c, List.mem_append_left _ hc, hcommits⟩
  heard _ := h.heard_next

theorem run (beats : List (Beat σ)) :
    Heard k (Service.start.scenes k beats) (Service.start.actAll k beats) :=
  @Run.invariant _ _ (Service.act k) (fun _ => True) (Heard k) Service.start start
    (fun _ s beat _ h => next (e := ⟨s, beat⟩) h) beats fun _ _ => trivial

end Heard

/-! ## Jobs that wait -/

namespace Store

theorem Row.read?_runAt {row : Row} {job : Job} (h : row.read? = some job) : job.runAt = row.runAt := by
  unfold Row.read? at h
  split at h <;> cases h
  rfl

end Store

/-- A job that was put in waits as it was, or has been taken; a job with a task has been taken. -/
structure Awaited (history : List (Occurrence σ)) (w : World σ) : Prop where
  ordered : w.tables.Ordered
  worked : ∀ k n task, w.task? k n = some task → ∃ c ∈ history, c.Takes task.job.id
  waits : ∀ c ∈ history, ∀ job, c.Enqueues job →
    (∃ row, w.tables.job? job.id = some row ∧ row.hasStatus .pending = true ∧ row.runAt = job.runAt) ∨
      ∃ x ∈ history, x.Takes job.id

namespace Occurrence

variable {e : Occurrence σ}

theorem takes_of_claimed (ho : e.before.tables.Ordered) {job : Job} (h : e.claimed? = some job) :
    e.Takes job.id := by
  obtain ⟨row, hbefore, -, hafter, -⟩ := claimed?_spec ho h
  refine ⟨Or.inl ?_, ?_⟩
  · unfold Occurrence.claimed? at h
    split at h
    · next hop _ => exact hop
    · cases h
  · rw [hbefore, hafter]
    exact fun hsame => Store.Row.claimed_ne row e.now (Option.some.inj hsame)

/-- A job that is put in has its row, pending. -/
theorem enqueued_row (ho : e.before.tables.Ordered) {job : Job} (h : e.Enqueues job) :
    ∃ row, e.after.tables.job? job.id = some row ∧ row.hasStatus .pending = true ∧
      row.runAt = job.runAt := by
  obtain ⟨⟨new, attempts, hop⟩, hreply⟩ := h
  have hchange := Occurrence.change hop hreply
  generalize hanswer : Except.ok (Reply.job job) = reply at hchange
  generalize hbehind : e.after.tables = behind at hchange
  cases hchange with
  | failed => cases hanswer
  | looked _ _ hlooks => cases hlooks
  | enqueued =>
    have hread : (Store.Row.fresh new attempts e.now (e.before.tables.lastJobId + 1)).read? = some job := by
      rw [Store.Row.answer] at hanswer
      cases hrow : (Store.Row.fresh new attempts e.now (e.before.tables.lastJobId + 1)).read? with
      | none =>
        rw [hrow] at hanswer
        cases hanswer
      | some read =>
        rw [hrow] at hanswer
        cases hanswer
        rfl
    exact ⟨_, Store.inserted_row ho hread, rfl, (Store.Row.read?_runAt hread).symm⟩

end Occurrence

namespace Awaited

variable {history : List (Occurrence σ)} {e : Occurrence σ}

theorem worked_next (h : Awaited history e.before) {k n : Nat} {task : Task}
    (hafter : e.after.task? k n = some task) : ∃ c ∈ history ++ [e], c.Takes task.job.id := by
  rcases ToldApart.task_before hafter with ⟨old, hold, hsame⟩ | ⟨hclaimed, -⟩
  · obtain ⟨c, hc, htakes⟩ := h.worked k n old hold
    exact ⟨c, List.mem_append_left _ hc, hsame ▸ htakes⟩
  · exact ⟨e, by simp, Occurrence.takes_of_claimed h.ordered hclaimed⟩

/-- A row that waits is waiting behind the turn, or has been taken by then: verdicts are the tasks', and a
job with a task has been taken. -/
theorem waiting_next (h : Awaited history e.before) (hturn : e.act.leavesVerdicts = true) {id : Int}
    {row : Store.Row} (hrow : e.before.tables.job? id = some row)
    (hpending : row.hasStatus .pending = true) :
    e.after.tables.job? id = some row ∨ ∃ x ∈ history ++ [e], x.Takes id := by
  by_cases hsame : e.after.tables.job? id = some row
  · exact Or.inl hsame
  refine Or.inr ?_
  have hchanges : e.before.tables.job? id ≠ e.after.tables.job? id := fun heq =>
    hsame (heq.symm.trans hrow)
  rcases e.tables_cases with ⟨-, htables⟩ | ⟨operation, reply, hop, hreply, hchange⟩
  · rw [htables] at hchanges
    exact absurd rfl hchanges
  have hfate := hchange.fate h.ordered id
  rw [hrow] at hfate
  rcases hfate.left with heq | ⟨-, rfl | rfl⟩ | ⟨hprocessing, -⟩ | ⟨⟨verdict, hverdict⟩, answer, rfl⟩
  · exact absurd heq hsame
  · exact ⟨e, by simp, Or.inl hop, hchanges⟩
  · exact ⟨e, by simp, Or.inr hop, hchanges⟩
  · cases Store.Row.hasStatus_unique hpending hprocessing
  · obtain ⟨k, n, hdecides⟩ := Occurrence.decides_of_verdict hturn hop hverdict hreply
    obtain ⟨task, htask, -, rfl⟩ := hdecides.holds
    obtain ⟨c, hc, htakes⟩ := h.worked k n task htask
    exact ⟨c, List.mem_append_left _ hc, htakes⟩

theorem lasts : World.Lasts (fun turn : Turn σ => turn.leavesVerdicts = true) Awaited where
  alike _ w w' halike h :=
    { ordered := halike.tables ▸ h.ordered
      worked := fun k n task htask => h.worked k n task ((halike.task? k n).symm.trans htask)
      waits := fun c hc job hjob => by
        rw [halike.tables]
        exact h.waits c hc job hjob }
  start :=
    { ordered := Store.Tables.empty_ordered
      worked := fun _ _ _ h => nomatch h
      waits := fun _ h => nomatch h }
  next history e hturn h :=
    { ordered := e.ordered h.ordered
      worked := fun _ _ _ => h.worked_next
      waits := by
        refine Run.forall_mem_snoc (fun c hc job hjob => ?_) fun job hjob =>
          Or.inl (Occurrence.enqueued_row h.ordered hjob)
        rcases h.waits c hc job hjob with ⟨row, hrow, hpending, hrunAt⟩ | ⟨x, hx, htakes⟩
        · exact (h.waiting_next hturn hrow hpending).imp_left fun hkept => ⟨row, hkept, hpending, hrunAt⟩
        · exact Or.inr ⟨x, List.mem_append_left _ hx, htakes⟩ }

end Awaited

/-! ## Passes that end without a job -/

theorem Scene.turn?_of_claim {e : Scene σ} {turn : Occurrence σ} (hmove : e.act.move = .own .claim)
    (hturn : e.turn? k = some turn) :
    turn.operation? = some .claimNext ∧ turn.now = e.now ∧ turn.before.tables = e.before.world.tables := by
  rw [Scene.turn?, hmove] at hturn
  dsimp only at hturn
  split at hturn <;> cases hturn
  next claimed p hclaiming hp =>
    refine ⟨?_, rfl, rfl⟩
    have hk := (List.getElem?_eq_some_iff.mp hp).1
    simp [Occurrence.operation?, Beat.turn, World.put, List.getElem?_set_self hk, Processor.operation?]

/-- A pass that ends without a job has met none that is due. -/
theorem Scene.FindsNone.not_due {e : Scene σ} (h : e.FindsNone k) {row : Store.Row}
    (hrow : row ∈ e.before.world.tables.jobs) : row.isDue e.now = false := by
  obtain ⟨hmove, turn, hturn, hreply⟩ := h
  obtain ⟨hop, hnow, htables⟩ := Scene.turn?_of_claim hmove hturn
  have hchange := Occurrence.change hop hreply
  rw [hnow, htables] at hchange
  generalize hanswer : Except.ok (Reply.claimed none) = reply at hchange
  generalize turn.after.tables = behind at hchange
  cases hchange with
  | failed => cases hanswer
  | looked _ _ hlooks => cases hlooks
  | idle hempty => exact Store.Tables.not_due_of_idle hempty hrow
  | claimed row => cases hread : (row.claimed e.now).answer <;> rw [hread] at hanswer <;> cases hanswer

/-- Verdicts are left to the tasks. -/
def Beat.leavesVerdicts (beat : Beat σ) : Bool :=
  match beat.move with
  | .other action => (beat.turn action).leavesVerdicts
  | _ => true

theorem Beat.allows_of_leavesVerdicts {beat : Beat σ} (h : beat.leavesVerdicts = true) :
    beat.Allows fun turn => turn.leavesVerdicts = true := by
  intro action hmove
  rwa [leavesVerdicts, hmove] at h

/-- A scene of a run meets the service behind the scenes before it, and the system has its laws there. -/
theorem Service.law_of_scene {allowed : Turn σ → Prop} {law : List (Occurrence σ) → World σ → Prop}
    (h : World.Lasts allowed law)
    (henqueue : ∀ (beat : Beat σ) job attempts, allowed (beat.turn (.ask (.enqueue job attempts))))
    (hclaim : ∀ beat : Beat σ, allowed (beat.turn (.act k .claim))) {beats : List (Beat σ)}
    (hbeats : ∀ beat ∈ beats, beat.Allows allowed) {earlier later : List (Scene σ)} {e : Scene σ}
    (hsplit : Service.start.scenes k beats = earlier ++ e :: later) :
    law (turnsOf k earlier) e.before.world := by
  obtain ⟨before, after, rfl, rfl, hbefore, -⟩ := Run.history_split hsplit
  rw [hbefore]
  exact Service.law_of_world h henqueue hclaim before fun beat hbeat => hbeats beat (by simp [hbeat])

/-- **No wake-up is lost.** In every run of the service in which verdicts are left to the tasks, whenever
no wake-up is stored: every job that a producer has returned was in the store before the latest pass
began. And if that pass has ended without a due job, then every such job that was due by then had been
claimed or cancelled. Due it is by the order of stored times, and so by the times themselves up to the
year 9999. -/
theorem no_wake_up_lost (k : Nat) (beats : List (Beat σ))
    (hbeats : ∀ beat ∈ beats, beat.leavesVerdicts = true)
    (hwoken : (Service.start.actAll k beats).woken k = false) (job : Job)
    (hjob : ∃ c ∈ Service.start.scenes k beats, c.Returns k job) :
    ∃ earlier b later, Service.start.scenes k beats = earlier ++ b :: later ∧ b.begins k = true ∧
      (∀ c ∈ later, c.begins k = false) ∧ (∃ c ∈ earlier, c.Commits k job) ∧
      ∀ middle z rest, later = middle ++ z :: rest → z.FindsNone k →
        (Store.storedAtMost job.runAt z.now = true ∨ job.runAt.FourDigits ∧ z.now.FourDigits ∧
          job.runAt.totalNanos ≤ z.now.totalNanos) →
        ∃ c ∈ earlier ++ b :: middle, c.Takes k job.id := by
  rcases (Heard.run beats).heard job hjob with hstored | hbegun
  · rw [hwoken] at hstored
    cases hstored
  obtain ⟨earlier, b, later, hscenes, hbegins, hlatest, c, hc, hcommits⟩ := hbegun
  refine ⟨earlier, b, later, hscenes, hbegins, hlatest, ⟨c, hc, hcommits⟩, ?_⟩
  rintro middle z rest rfl hnone hdue
  have hstored : Store.storedAtMost job.runAt z.now = true := by
    rcases hdue with hstored | ⟨hjobTime, hclock, hle⟩
    · exact hstored
    · rw [Store.storedAtMost, Bool.not_eq_true', ← Bool.not_eq_true]
      exact fun hlater => Int.not_lt.mpr hle ((hclock.storedBefore_iff hjobTime).mp hlater)
  have hsplit : Service.start.scenes k beats = (earlier ++ b :: middle) ++ z :: rest := by
    rw [hscenes]
    simp
  have hall := Service.law_of_scene Awaited.lasts (fun _ _ _ => rfl) (fun _ => rfl)
    (fun beat hbeat => Beat.allows_of_leavesVerdicts (hbeats beat hbeat)) hsplit
  obtain ⟨-, turn, hturn, henqueues⟩ := hcommits
  have hmem : turn ∈ turnsOf k (earlier ++ b :: middle) :=
    List.mem_filterMap.mpr ⟨c, List.mem_append_left _ hc, hturn⟩
  rcases hall.waits turn hmem job henqueues with ⟨row, hrow, hpending, hrunAt⟩ | ⟨x, hx, htakes⟩
  · have hidle := hnone.not_due (Store.Tables.mem_of_job? hrow).1
    rw [Store.Row.isDue, hpending, hrunAt, hstored] at hidle
    cases hidle
  · obtain ⟨d, hd, hdturn⟩ := List.mem_filterMap.mp hx
    exact ⟨d, hd, x, hdturn, htakes⟩

/-- A job as its producer returns it. -/
def lateJob : Job :=
  { id := 1, tenantId := none, jobType := "a", payload := [], status := .pending,
    idempotencyKey := none, attemptCount := 0, maxAttempts := 5, lastError := none,
    runAt := Store.wholeSecond 1, startedAt := none, completedAt := none,
    createdAt := Store.wholeSecond 1, updatedAt := Store.wholeSecond 1 }

/-- It is put in while the loop is at work, and claimed before its producer has woken the loop. The
wake-up leads to one more pass, which finds none. -/
def lateProducer : List (Beat Unit) :=
  [.quiet 0 (.other (.launch .standard Registry.empty (.ofProfiles [] .fallback) ())),
   .quiet 1 (.own .tick),
   .quiet 1 (.commit ⟨"a", [], none, none, none, none⟩ Store.standardMaxAttempts),
   .quiet 2 (.own .look),
   .quiet 2 (.own .claim),
   .quiet 3 (.own (.tell lateJob)),
   .quiet 3 (.own .look),
   .quiet 3 (.own .claim),
   .quiet 4 (.own .wake),
   .quiet 4 (.own .look),
   .quiet 4 (.own .claim)]

/-- The claim that ends the run. -/
def lateProducer.lastClaim : Scene Unit :=
  ⟨Service.start.actAll 0 (lateProducer.take 10), .quiet 4 (.own .claim)⟩

theorem no_wake_up_lost_lateProducer :
    (Service.start.actAll 0 lateProducer).woken 0 = false ∧
    (∃ c ∈ Service.start.scenes 0 lateProducer, c.Returns 0 lateJob) ∧
    ∃ c ∈ Service.start.scenes 0 lateProducer, c.Takes 0 1 := by
  have hwoken : (Service.start.actAll 0 lateProducer).woken 0 = false := by decide
  have hreturns : ∃ c ∈ Service.start.scenes 0 lateProducer, c.Returns 0 lateJob :=
    ⟨_, List.mem_of_getElem? (i := 5) rfl, rfl, by decide, _, rfl⟩
  have hnone : lateProducer.lastClaim.FindsNone 0 := by
    refine ⟨rfl, _, rfl, ?_⟩
    decide
  have hlast : (Service.start.scenes 0 lateProducer).getLast? = some lateProducer.lastClaim := rfl
  obtain ⟨earlier, b, later, hscenes, hbegins, hlatest, hcommits, htaken⟩ :=
    no_wake_up_lost 0 lateProducer (by decide) hwoken _ hreturns
  refine ⟨hwoken, hreturns, ?_⟩
  rw [hscenes] at hlast ⊢
  -- the run ends with a claim in vain, so this is where the latest pass ends
  rcases List.eq_nil_or_concat' later with rfl | ⟨middle, z, rfl⟩
  · rw [List.getLast?_concat] at hlast
    cases hlast
    exact absurd hbegins (by decide)
  · rw [← List.cons_append, ← List.append_assoc] at hlast ⊢
    rw [List.getLast?_concat] at hlast
    cases hlast
    obtain ⟨c, hc, htakes⟩ := htaken middle _ [] rfl hnone (Or.inl (by decide))
    exact ⟨c, List.mem_append_left _ hc, htakes⟩

end DurableJobs
