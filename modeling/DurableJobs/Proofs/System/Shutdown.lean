import DurableJobs.Proofs.System.Endings

/-!
# Shutting down

A processor is cancelled while its loop is anywhere, and its tasks are anywhere too. The loop looks at
the cancellation before each claim, so one claim may still come, that of a loop that has looked
(`Scene.claims_le`). The loop leaves, waits until there are no tasks, and returns; a processor that is
cancelled and has no tasks gets none any more (`Winding`).

So when the loop has returned no claim is at work. Its task has written what is to become of the job, and
has written it once, or it has been turned away at the gate and the row is as the claim has left it.
-/

set_option autoImplicit false

namespace DurableJobs

open Store (Operation Reply)

variable {σ : Type} {k : Nat}

/-- The processor has been cancelled. -/
def Service.Cancelled (k : Nat) (s : Service σ) : Prop :=
  ∃ p, s.world.processors[k]? = some p ∧ p.cancelled = true

/-- A processor asks the store for its next job. -/
def Occurrence.claims (k : Nat) (e : Occurrence σ) : Bool :=
  match e.act.action with
  | .act j .claim => j == k && e.operation?.isSome
  | _ => false

namespace Scene

/-- The processor asks the store for its next job. -/
def claims (k : Nat) (e : Scene σ) : Bool := (e.turn? k).any (·.claims k)

/-- The processor is cancelled. -/
def Cancels (k : Nat) (e : Scene σ) : Prop :=
  e.act.move = .other (.act k .cancel) ∧ ∃ p, e.before.world.processors[k]? = some p

end Scene

/-! ## Claims behind a cancellation -/

/-- A cancelled processor does not claim by itself. -/
theorem Occurrence.claims_of_cancelled {e : Occurrence σ} {p : Processor σ}
    (hp : e.before.processors[k]? = some p) (hcancelled : p.cancelled = true) : e.claims k = false := by
  unfold Occurrence.claims
  split
  · next j haction =>
    by_cases hj : j = k
    · subst hj
      simp [Occurrence.operation?, haction, hp, Processor.operation?, hcancelled]
    · simp [hj]
  · rfl

namespace Scene

variable {e : Scene σ}

theorem claims_of_none (h : e.turn? k = none) : e.claims k = false := by
  rw [claims, h]
  rfl

theorem keeps_cancelled (h : e.before.Cancelled k) : (e.after k).Cancelled k := by
  obtain ⟨p, hp, hcancelled⟩ := h
  have there : ∀ (q : Processor σ) (tables : Store.Tables) (loop : Loop) (untold : List Job),
      q.cancelled = true →
      (⟨{ e.before.world.put k q with tables }, loop, untold⟩ : Service σ).Cancelled k :=
    fun q _ _ _ hq => ⟨q, List.getElem?_set_self (List.getElem?_eq_some_iff.mp hp).1, hq⟩
  have heffect := e.effect k
  generalize e.after k = after at heffect
  cases heffect with
  | other action =>
    obtain ⟨q, hq, -, hkeeps⟩ := Occurrence.keeps_flags (e := ⟨e.before.world, e.act.turn action⟩) hp
    exact ⟨q, hq, hkeeps hcancelled⟩
  | told q hq | woken q hq =>
    cases hp.symm.trans hq
    exact there _ _ _ _ hcancelled
  | took q hq _ _ _ _ _ _ hcall =>
    cases hp.symm.trans hq
    refine there _ _ _ _ ?_
    rw [Processor.take] at hcall
    rcases hclaim : (Store.claimNext e.act.moment.wall).execute ⟨e.before.world.tables, e.act.faults⟩
      with ⟨_ | _ | job, session⟩ <;> rw [hclaim] at hcall <;> cases hcall <;> exact hcancelled
  | committed | idle | ticked | looked | left | finished => exact ⟨p, hp, hcancelled⟩

/-- A claim behind the cancellation uses up the look that has let it through, and there is no other. -/
theorem claims_add_le (h : e.before.Cancelled k) :
    (e.claims k).toNat + (e.after k).loop.claims.toNat ≤ e.before.loop.claims.toNat := by
  obtain ⟨p, hp, hcancelled⟩ := h
  have heffect := e.effect k
  generalize e.after k = after at heffect
  cases heffect with
  | other action hmove =>
    have hnone : e.claims k = false := by
      rw [claims, turn?, hmove]
      exact Occurrence.claims_of_cancelled (e := ⟨e.before.world, e.act.turn action⟩) hp hcancelled
    simp [hnone]
  | committed job attempts hmove =>
    have hnone : e.claims k = false := by
      rw [claims, turn?, hmove]
      rfl
    simp [hnone]
  | idle stir hmove hturn => simp [claims_of_none hturn]
  | told _ _ _ hmove => simp [claims_of_none (turn?_of_stir hmove (by simp))]
  | woken _ _ hmove | ticked hmove | left _ _ hmove | finished _ _ hmove =>
    simp [claims_of_none (turn?_of_stir hmove (by simp)), Loop.claims]
  | looked q hq hmove =>
    cases hp.symm.trans hq
    simp [claims_of_none (turn?_of_stir hmove (by simp)), Processor.goesOn, hcancelled, Loop.claims]
  | took _ _ _ claimed hclaiming _ _ _ _ loop hnext =>
    have hspent : loop.claims = false := by rcases hnext with rfl | rfl <;> rfl
    rw [hspent, hclaiming]
    exact Bool.toNat_le _

/-- **One more claim at most.** -/
theorem claims_le (beats : List (Beat σ)) {s : Service σ} (h : s.Cancelled k) :
    (s.scenes k beats).countP (·.claims k) ≤ s.loop.claims.toNat := by
  induction beats generalizing s with
  | nil => exact Nat.zero_le _
  | cons beat beats ih =>
    have hstep := claims_add_le (e := ⟨s, beat⟩) h
    have hrest := ih (keeps_cancelled (e := ⟨s, beat⟩) h)
    have hcount : (s.scenes k (beat :: beats)).countP (·.claims k) =
        ((s.act k beat).scenes k beats).countP (·.claims k) + (claims k ⟨s, beat⟩).toNat := by
      rw [Service.scenes, Run.history, List.countP_cons]
      cases claims k ⟨s, beat⟩ <;> rfl
    rw [hcount, Nat.add_comm]
    exact Nat.le_trans (Nat.add_le_add_left hrest _) hstep

theorem Cancels.after (h : e.Cancels k) :
    (e.after k).Cancelled k ∧ (e.after k).loop = e.before.loop := by
  obtain ⟨hmove, p, hp⟩ := h
  have hafter : e.after k =
      { e.before with world := e.before.world.act (e.act.turn (.act k .cancel)) } := by
    rw [Scene.after, Service.act, hmove]
  rw [hafter]
  refine ⟨⟨p.cancel, ?_, rfl⟩, rfl⟩
  rw [World.act]
  simp only [Beat.turn, hp]
  exact List.getElem?_set_self (List.getElem?_eq_some_iff.mp hp).1

end Scene

/-! ## The end of the loop -/

theorem Processor.act_tasks_nil {p : Processor σ} (hcancelled : p.cancelled = true) (htasks : p.tasks = [])
    (deed : Deed σ) (moment : Moment) (s : Store.Session) : (p.act deed moment s).1.tasks = [] := by
  have hnone : ∀ n, p.task? n = none := fun n => by rw [task?, htasks, List.find?_nil]
  cases deed with
  | produce job attempts =>
    rw [act, Producer.enqueue]
    rcases (Store.enqueue job attempts moment.wall).execute s with ⟨_ | _, _⟩ <;> exact htasks
  | claim =>
    rw [act, Processor.claim, if_pos hcancelled]
    exact htasks
  | step n draw =>
    rw [act, hnone]
    exact htasks
  | lose n =>
    rw [act, lose, moveTo, if_pos rfl]
    simp [htasks]
  | rescue | cancel | register | disturb => exact htasks

theorem Occurrence.stopped_after {e : Occurrence σ} (h : e.before.Stopped k) : e.after.Stopped k := by
  obtain ⟨p, hp, hcancelled, htasks⟩ := h
  obtain ⟨q, hq, -, hkeeps⟩ := Occurrence.keeps_flags hp
  refine ⟨q, hq, hkeeps hcancelled, ?_⟩
  rcases Occurrence.processor_before hq with hsame | ⟨hnone, -⟩ | ⟨p', deed, hp', -, rfl⟩
  · cases hp.symm.trans hsame
    exact htasks
  · cases hp.symm.trans hnone
  · cases hp.symm.trans hp'
    exact Processor.act_tasks_nil hcancelled htasks deed _ _

/-- A loop that has left has been cancelled, and one that has returned has no tasks behind it. -/
structure Winding (k : Nat) (s : Service σ) : Prop where
  draining : s.loop = .draining → s.Cancelled k
  returned : s.loop = .returned → s.world.Stopped k

theorem Winding.next {e : Scene σ} (h : Winding k e.before) : Winding k (e.after k) where
  draining hloop := by
    by_cases hbefore : e.before.loop = .draining
    · exact Scene.keeps_cancelled (h.draining hbefore)
    have heffect := e.effect k
    generalize e.after k = after at heffect hloop
    cases heffect with
    | left p hp _ hcancelled => exact ⟨p, hp, hcancelled⟩
    | looked =>
      dsimp only at hloop
      split at hloop <;> cases hloop
    | took _ _ _ _ _ _ _ _ _ loop hnext => rcases hnext with rfl | rfl <;> cases hloop
    | other | committed | idle | told => exact absurd hloop hbefore
    | woken | ticked | finished => cases hloop
  returned hloop := by
    have heffect := e.effect k
    generalize e.after k = after at heffect hloop
    have same : ∀ {p q : Processor σ}, e.before.world.processors[k]? = some p →
        q.cancelled = p.cancelled → q.tasks = p.tasks → e.before.loop = .returned →
        (e.before.world.put k q).Stopped k := by
      intro p q hp hcancelled htasks hreturned
      obtain ⟨p', hp', hstopped, hnil⟩ := h.returned hreturned
      cases hp.symm.trans hp'
      exact ⟨q, List.getElem?_set_self (List.getElem?_eq_some_iff.mp hp).1, hcancelled.trans hstopped,
        htasks.trans hnil⟩
    cases heffect with
    | other action =>
      exact Occurrence.stopped_after (e := ⟨e.before.world, e.act.turn action⟩) (h.returned hloop)
    | committed | idle => exact h.returned hloop
    | told p hp => exact same hp rfl rfl hloop
    | looked =>
      dsimp only at hloop
      split at hloop <;> cases hloop
    | took _ _ _ _ _ _ _ _ _ loop hnext => rcases hnext with rfl | rfl <;> cases hloop
    | finished p hp _ hdraining hover =>
      obtain ⟨q, hq, hcancelled⟩ := h.draining hdraining
      cases hp.symm.trans hq
      exact ⟨p, hp, hcancelled, hover⟩
    | woken | ticked | left => cases hloop

theorem winding_run (k : Nat) (beats : List (Beat σ)) : Winding k (Service.start.actAll k beats) :=
  @Run.invariant _ _ (Service.act k) (fun _ => True) (fun _ => Winding k) Service.start
    ⟨nofun, nofun⟩ (fun _ s beat _ h => h.next (e := ⟨s, beat⟩)) beats fun _ _ => trivial

/-! ## Claims behind the end -/

/-- What tasks write in the end: completed, put off, archived, failed. -/
def outcomes : List (Option String) :=
  [some Status.completed.name, some Status.pending.name, none, some Status.failed.name]

theorem Store.Operation.verdict?_mem {operation : Operation} {id : Int} {verdict : Option String}
    (h : operation.verdict? = some (id, verdict)) : verdict ∈ outcomes := by
  cases operation <;> cases h <;> decide

theorem World.Stopped.task?_eq_none {w : World σ} (h : w.Stopped k) (n : Nat) : w.task? k n = none := by
  obtain ⟨p, hp, -, htasks⟩ := h
  rw [World.task?_of_processor hp, Processor.task?, htasks, List.find?_nil]

/-- **Shutting down.** In every run of the service, behind each moment at which the processor is cancelled
it claims once more if its loop had looked by then, and otherwise not at all. Once the loop has returned
no task is left. And then each claim whose task has not been lost, and whose last write has not failed,
has ended in one of two ways. Its task has written what is to become of the job, and has written it once;
or it has been turned away at the gate behind a cancellation, has written nothing and has never called its
handler, and its row is as the claim has left it as long as nobody else has had a hand in it. -/
theorem shutdown_settles_claims (k : Nat) (beats : List (Beat σ))
    (hbeats : ∀ beat ∈ beats, beat.Allows Turn.BuildsGates) :
    (∀ earlier c later, Service.start.scenes k beats = earlier ++ c :: later → c.Cancels k →
      later.countP (·.claims k) ≤ c.before.loop.claims.toNat) ∧
    ((Service.start.actAll k beats).loop = .returned →
      (Service.start.actAll k beats).world.Stopped k ∧
      ∀ earlier e later n job, turnsOf k (Service.start.scenes k beats) = earlier ++ e :: later →
        e.Starts k n job → Spared later k n →
        (∃ verdict ∈ outcomes, DecidedOnce later k n job.id verdict) ∨
        (CutOff (earlier ++ e :: later) k job ∧ Silent later k n ∧ Uncalled later k n ∧
          (LeftAlone earlier e later job.id →
            ∃ row, e.before.tables.job? job.id = some row ∧
              (Service.start.actAll k beats).world.tables.job? job.id = some (row.claimed e.now)))) := by
  refine ⟨fun earlier c later hsplit hcancels => ?_, fun hreturned => ?_⟩
  · obtain ⟨_, after, -, -, -, rfl⟩ := Run.history_split hsplit
    obtain ⟨hcancelled, hloop⟩ := hcancels.after
    exact hloop ▸ Scene.claims_le after hcancelled
  have hstopped := (winding_run k beats).returned hreturned
  refine ⟨hstopped, fun earlier e later n job hsplit hstarts hspared => ?_⟩
  have hfollowed := (Service.law_of_world followed_lasts (fun _ _ _ _ _ _ _ haction => nomatch haction)
    (fun _ _ _ _ _ haction => nomatch haction) beats hbeats).2 earlier e later hsplit
  cases hfollowed.course k n job hstarts hspared with
  | working task found => cases (hstopped.task?_eq_none n).symm.trans found
  | decided verdict once =>
    obtain ⟨before, c, after, hlater, hdecides, hsilent⟩ := once
    obtain ⟨_, _, _, _, _, hverdict, _⟩ := id hdecides
    exact Or.inl ⟨verdict, Store.Operation.verdict?_mem hverdict, before, c, after, hlater, hdecides,
      hsilent⟩
  | turnedAway _ cut silent uncalled =>
    refine Or.inr ⟨cut, silent, uncalled, fun halone => ?_⟩
    obtain ⟨row, hrow, hreserved⟩ := hfollowed.reserved k n job hstarts halone silent
    exact ⟨row, hrow, hreserved.row⟩

/-- The beat brings a new processor. -/
def Beat.launches (beat : Beat σ) : Bool :=
  match beat.move with
  | .other (.launch _ _ _ _) => true
  | _ => false

theorem Beat.allows_of_launches {beat : Beat σ} (h : beat.launches = false) :
    beat.Allows Turn.BuildsGates := by
  intro action hmove config registry limiter collaborators hlaunch
  have haction : action = .launch config registry limiter collaborators := hlaunch
  rw [launches, hmove, haction] at h
  cases h

/-- A step of a task at a whole second. -/
def Beat.step (second n : Nat) : Beat Bool := .quiet second (.other (.act 0 (.step n 0)))

/-- A processor works on one of three jobs, another one waits at the gate, and the loop has looked and is
about to claim the third when the processor is cancelled. -/
def shutDownBusy : List (Beat Bool) :=
  [.quiet 0 (.other .launchBehindDoor),
   .quiet 0 (.other (.enqueue "a")), .quiet 0 (.other (.enqueue "a")), .quiet 0 (.other (.enqueue "a")),
   .quiet 1 (.own .tick),
   .quiet 1 (.own .look), .quiet 1 (.own .claim), .quiet 1 (.own .look), .quiet 1 (.own .claim),
   .step 1 0, .step 1 0, .step 1 0, .step 1 1, .step 1 1,
   .quiet 1 (.own .look),
   .quiet 2 (.other (.act 0 .cancel)),
   .quiet 2 (.own .claim), .quiet 2 (.own .look), .quiet 2 (.own .leave),
   .step 2 1, .step 2 2, .step 2 2,
   .quiet 3 (.other (.act 0 (.disturb true))),
   .step 3 0, .step 3 0, .step 3 0, .step 3 0,
   .quiet 3 (.own .finish)]

def busyTurns : List (Occurrence Bool) := turnsOf 0 (Service.start.scenes 0 shutDownBusy)

/-- A job as the processor has claimed it. -/
def busyJob (id : Int) (second : Nat) : Job :=
  { id, tenantId := none, jobType := "a", payload := [], status := .processing,
    idempotencyKey := none, attemptCount := 1, maxAttempts := 5, lastError := none,
    runAt := Store.wholeSecond 0, startedAt := some (Store.wholeSecond second), completedAt := none,
    createdAt := Store.wholeSecond 0, updatedAt := Store.wholeSecond second }

/-- The row of the third job, before it is claimed. -/
def thirdRow : Store.Row :=
  { id := 3, tenantId := none, jobType := "a", payload := [], status := Status.pending.name,
    idempotencyKey := none, attemptCount := 0, maxAttempts := 5, lastError := none,
    runAt := Store.wholeSecond 0, startedAt := none, completedAt := none,
    createdAt := Store.wholeSecond 0, updatedAt := Store.wholeSecond 0 }

theorem busy_spared (n : Nat) (hn : n < 3) : Spared busyTurns 0 n := by
  have hkept : ∀ c ∈ busyTurns, (∀ n < 3, c.loses 0 n = false) ∧ c.reply?.all (·.isOk) = true := by
    decide +kernel
  exact fun c hc => ⟨(hkept c hc).1 n hn, Occurrence.not_unwritten (hkept c hc).2⟩

/-- The first claim is decided, and the third one, made behind the cancellation, is turned away. -/
theorem shutdown_settles_claims_busy :
    (Service.start.actAll 0 shutDownBusy).loop = .returned ∧
    ((Service.start.scenes 0 shutDownBusy).drop 16).countP (·.claims 0) = 1 ∧
    (∃ verdict ∈ outcomes, DecidedOnce (busyTurns.drop 5) 0 0 1 verdict) ∧
    CutOff busyTurns 0 (busyJob 3 2) ∧
    (Service.start.actAll 0 shutDownBusy).world.tables.job? 3 =
      some (thirdRow.claimed (Store.wholeSecond 2)) := by
  have hbeats : ∀ beat ∈ shutDownBusy, beat.Allows Turn.BuildsGates := by
    refine List.forall_mem_cons.mpr ⟨?_, fun beat hbeat => Beat.allows_of_launches ?_⟩
    · rintro action haction config registry limiter collaborators hlaunch
      cases haction
      cases hlaunch
      exact ⟨_, _, rfl⟩
    · have hnone : ∀ beat ∈ shutDownBusy.tail, beat.launches = false := by decide
      exact hnone beat hbeat
  have hreturned : (Service.start.actAll 0 shutDownBusy).loop = .returned := by decide +kernel
  obtain ⟨-, hsettled⟩ := (shutdown_settles_claims 0 shutDownBusy hbeats).2 hreturned
  have hfirst := hsettled (busyTurns.take 4) busyTurns[4] (busyTurns.drop 5) 0 (busyJob 1 1) rfl
    ⟨rfl, by decide +kernel, _, rfl, by decide +kernel⟩ fun c hc =>
      busy_spared 0 (by decide) c (List.mem_of_mem_drop hc)
  have hthird := hsettled (busyTurns.take 12) busyTurns[12] (busyTurns.drop 13) 2 (busyJob 3 2) rfl
    ⟨rfl, by decide +kernel, _, rfl, by decide +kernel⟩ fun c hc =>
      busy_spared 2 (by decide) c (List.mem_of_mem_drop hc)
  refine ⟨hreturned, by decide +kernel, hfirst.resolve_right fun ⟨_, _, huncalled, _⟩ => ?_, ?_⟩
  · -- the first task has called its handler
    have hcall : busyTurns[8] ∈ busyTurns.drop 5 := List.mem_of_getElem? (i := 3) rfl
    exact huncalled _ hcall ⟨0, busyJob 1 1, .admitted⟩ ⟨⟨⟨0, rfl⟩, by decide +kernel⟩, rfl⟩
  · obtain ⟨cut, -, -, hrow⟩ := hthird.resolve_left fun ⟨verdict, _, _, c, _, hlater, hdecides, _⟩ => by
      -- the third task asks for nothing but a look into the ledger
      have hsilent : ∀ c ∈ busyTurns.drop 13, c.stepping?.all (fun step =>
          step.2.number != 2 || (step.2.operation? c.now).all (·.verdict?.isNone)) = true := by
        decide +kernel
      have hc := hsilent c (hlater ▸ by simp)
      obtain ⟨task, operation, _, hsteps, hop, hverdict, _⟩ := hdecides
      obtain ⟨_, _, hn⟩ := Option.bind_eq_some_iff.mp hsteps.2
      rw [hsteps.stepping?] at hc
      simp [Processor.number_of_task? hn, hop, hverdict] at hc
    have halone : LeftAlone (busyTurns.take 12) busyTurns[12] (busyTurns.drop 13) 3 := by
      refine ⟨by decide +kernel, fun c hc => Occurrence.not_robs fun hpass => ?_, by decide +kernel⟩
      have hnone : ∀ c ∈ busyTurns.take 12, c.operation?.any Operation.reclaims = false := by
        decide +kernel
      rw [hnone c hc] at hpass
      cases hpass
    obtain ⟨row, hbefore, hafter⟩ := hrow halone
    have hthird : busyTurns[12].before.tables.job? 3 = some thirdRow := by decide +kernel
    cases hthird.symm.trans hbefore
    exact ⟨cut, hafter⟩

end DurableJobs
