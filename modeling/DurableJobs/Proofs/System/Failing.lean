import DurableJobs.Proofs.Store.Lineage
import DurableJobs.Proofs.System.Processing
import DurableJobs.Proofs.System.Results

/-!
# Jobs that always fail

A job whose handler never succeeds is put off and tried again until its attempts are used up, and then it
is archived. Nobody keeps the number of its failures as such: a claim counts the row up, the task that
starts with it compares its own copy of the count with the greatest, and what the task writes leaves the
count as it is. `Failing` puts these together. It says where the job stands behind so many calls and
failures, and a turn that does not interfere leads from one such place to another, whether it is a step
of the task that tries the job (`Failing.step`) or anything else (`Failing.away`).

Two things can leave the job in processing with nobody to go on with it: its task stops, or somebody
claims it who starts no task (`Occurrence.Drops`). The job is not called any more then.
-/

set_option autoImplicit false

namespace DurableJobs

open Store (Operation Reply Row Change)

variable {σ : Type}

/-! ## Turns in which a job can only fail -/

/-- What becomes of jobs is left to their tasks: nobody else gives a verdict or records a job. -/
def Turn.leavesOutcomes (turn : Turn σ) : Bool :=
  match turn.action with
  | .ask (.recordProcessed _) => false
  | .ask operation => operation.verdict?.isNone
  | _ => true

theorem Turn.leavesVerdicts_of_outcomes {turn : Turn σ} (h : turn.leavesOutcomes = true) :
    turn.leavesVerdicts = true := by
  unfold leavesOutcomes at h
  unfold leavesVerdicts
  split at h
  · cases h
  · next haction => rwa [haction]
  · next hask =>
    split
    · next operation haction => exact absurd haction (hask operation)
    · rfl

namespace Occurrence

/-- The turn puts in a job that may be tried so many times: it is enqueued, or made of a dead letter. -/
structure PutsIn (e : Occurrence σ) (id most : Int) : Prop where
  answers : ∃ created, e.reply? = some (.ok (.job created)) ∧ created.id = id
  asks : (∃ job attempts, e.operation? = some (.enqueue job attempts) ∧
      most = job.maxAttempts.getD attempts) ∨
    ∃ letterId, e.operation? = some (.restore letterId most)

/-- Nothing happens to a job but that its handler fails: it is not cancelled, not taken back and not too
old to be tried again, no call to the store about it fails, and whatever its tasks hear is a failure. -/
structure OnlyFails (e : Occurrence σ) (id : Int) : Prop where
  outcomes : e.act.leavesOutcomes = true
  kept : e.operation? ≠ some (.cancel id)
  stays : e.takesBack id = false
  claims : e.operation? = some .claimNext → ∀ error, e.reply? ≠ some (.error error)
  served : ∀ k n task, e.Steps k n task → task.job.id = id → ∀ error, e.reply? ≠ some (.error error)
  fails : ∀ r, e.result? = some r → r.job.id = id → r.outcome ≠ .done
  young : ∀ k n task p, e.Steps k n task → e.before.processors[k]? = some p → task.job.id = id →
    e.result?.isSome = true → e.now.since task.job.createdAt ≤ p.config.deadLetters.staleAfter

/-- A task of a job stops and says nothing, or the job is claimed by somebody who starts no task. -/
inductive Drops (e : Occurrence σ) (id : Int) : Prop where
  | lost (k n : Nat) (task : Task) (action : e.act.action = .act k (.lose n))
      (found : e.before.task? k n = some task) (own : task.job.id = id)
  /-- At the gate, since its processor has been cancelled. -/
  | turnedAway (k n : Nat) (task : Task) (steps : e.Steps k n task) (own : task.job.id = id)
      (waits : task.phase = .asking ∨ task.phase = .queued) (gone : e.after.task? k n = none)
  | taken (action : e.act.action = .ask .claimNext) (own : ∃ job, e.claimed? = some job ∧ job.id = id)

/-- The row of a job is taken out, and a dead letter is put in that tells of so many attempts and of the
last of some failures. -/
def Shelves (e : Occurrence σ) (id : Int) (failures : List String) : Prop :=
  (e.before.tables.job? id).isSome = true ∧ e.after.tables.job? id = none ∧
    ∃ letter : DeadLetter, e.after.tables.deadLetters = e.before.tables.deadLetters ++ [letter] ∧
      letter.originalJobId = id ∧ letter.attemptCount = failures.length ∧
      letter.lastError = failures.getLast?

/-- The message of the failure of a job that its task hears of in this turn. -/
def failure? (e : Occurrence σ) (id : Int) : Option String :=
  (e.result?.filter (·.job.id == id)).bind fun r => r.outcome.failure?.map (·.message)

end Occurrence

/-- The messages of the failures of a job, in the order in which they have been heard. -/
def failuresOf (history : List (Occurrence σ)) (id : Int) : List String :=
  history.filterMap (·.failure? id)

/-! ## Where a job stands that has failed so far -/

/-- How far a task has come that tries its job once more behind some failures: how often the job has been
called by now, and with which messages it has failed. -/
inductive Attempt (most : Int) (past : List String) : Phase → Nat → List String → Prop where
  | ahead (phase : Phase) (before : Milestone.beforeCall phase = true) :
      Attempt most past phase past.length past
  | running : Attempt most past .running (past.length + 1) past
  | rescheduling (message : String) (delay : Span) (again : (past.length : Int) + 1 < most) :
      Attempt most past (.rescheduling message delay) (past.length + 1) (past ++ [message])
  | archiving (message : String) (final : most ≤ past.length + 1) :
      Attempt most past (.archiving message) (past.length + 1) (past ++ [message])

/-- A job as its task knows it and its row, when it is tried once more behind some failures. -/
structure Trying (id most : Int) (past : List String) (job : Job) (row : Row) (w : World σ) : Prop where
  own : job.id = id
  there : w.tables.job? id = some row
  count : job.attemptCount = past.length + 1
  rowCount : row.attemptCount = past.length + 1
  limit : job.maxAttempts = most
  rowLimit : row.maxAttempts = most
  few : past.length < max 1 most.toNat

/-- Where a job stands that may be tried so many times, has been called so often, and has failed with
these messages. -/
inductive Failing (id most : Int) (history : List (Occurrence σ)) (w : World σ) :
    Nat → List String → Prop where
  | waiting (row : Row) (failures : List String) (there : w.tables.job? id = some row)
      (pending : row.hasStatus .pending = true) (limit : row.maxAttempts = most)
      (count : row.attemptCount = failures.length) (told : row.lastError = failures.getLast?)
      (few : failures.length < max 1 most.toNat) (free : ∀ k n, ¬ w.Holds k n id) :
      Failing id most history w failures.length failures
  | working (k n : Nat) (task : Task) (row : Row) (past : List String) (calls : Nat)
      (failures : List String) (found : w.task? k n = some task)
      (trying : Trying id most past task.job row w) (attempt : Attempt most past task.phase calls failures) :
      Failing id most history w calls failures
  | dropped (calls : Nat) (failures : List String)
      (processing : w.tables.standing id = some Status.processing.name)
      (free : ∀ k n, ¬ w.Holds k n id) (drop : ∃ e ∈ history, e.Drops id)
      (within : calls ≤ max 1 most.toNat) : Failing id most history w calls failures
  | archived (failures : List String) (gone : w.tables.job? id = none)
      (filed : ∃ e ∈ history, e.Shelves id failures) (all : failures.length = max 1 most.toNat) :
      Failing id most history w failures.length failures

variable {history : List (Occurrence σ)} {e : Occurrence σ} {id most : Int} {k n : Nat} {task : Task}

theorem Attempt.holds {past failures : List String} {phase : Phase} {calls : Nat}
    (h : Attempt most past phase calls failures) : phase.holds = true := by
  cases h with
  | ahead phase before => cases phase <;> first | rfl | cases before
  | running | rescheduling | archiving => rfl

theorem Attempt.calls_le {past failures : List String} {phase : Phase} {calls : Nat}
    (h : Attempt most past phase calls failures) : calls ≤ past.length + 1 := by
  cases h with
  | ahead => exact Nat.le_succ _
  | running | rescheduling | archiving => exact Nat.le_refl _

/-! ## What a turn counts -/

theorem failuresOf_snoc (history : List (Occurrence σ)) (e : Occurrence σ) (id : Int) :
    failuresOf (history ++ [e]) id = failuresOf history id ++ (e.failure? id).toList :=
  Run.filterMap_snoc _ history e

theorem countOf_calledJobs_snoc (history : List (Occurrence σ)) (e : Occurrence σ) (id : Int) :
    countOf (calledJobs (history ++ [e])) id =
      countOf (calledJobs history) id + ((Milestone.call.passing? e).any (·.id == id)).toNat := by
  rw [calledJobs, Milestone.passed_snoc, countOf_snoc, ← calledJobs]

namespace Occurrence

theorem Steps.failure? {p : Processor σ} (hsteps : e.Steps k n task)
    (hp : e.before.processors[k]? = some p) (hown : task.job.id = id) :
    e.failure? id =
      (p.outcome? task.job task.phase).bind fun outcome => outcome.failure?.map (·.message) := by
  rw [Occurrence.failure?, hsteps.result? hp]
  cases p.outcome? task.job task.phase with
  | none => rfl
  | some outcome =>
    rw [Option.map_some, Option.filter_some, if_pos (beq_iff_eq.mpr hown)]
    rfl

theorem Steps.called (hsteps : e.Steps k n task) (hown : task.job.id = id) :
    (Milestone.call.passing? e).any (·.id == id) = decide (task.phase = .admitted) := by
  rw [Milestone.passing?, hsteps.stepping?, Option.filter_some]
  change Option.any _ (Option.map _ (if decide (task.phase = .admitted) = true then _ else _)) = _
  cases decide (task.phase = .admitted) with
  | true => exact beq_iff_eq.mpr hown
  | false => rfl

/-- No task that holds a job takes a step. -/
def Passes (e : Occurrence σ) (id : Int) : Prop :=
  ∀ k n task, e.Steps k n task → task.job.id = id → task.phase.holds = false

theorem Passes.called (h : e.Passes id) : (Milestone.call.passing? e).any (·.id == id) = false := by
  rw [Bool.eq_false_iff]
  intro hany
  obtain ⟨job, hjob, hid⟩ := (Option.any_eq_true _ _).mp hany
  obtain ⟨k, n, task, hsteps, hpasses, rfl⟩ := Milestone.passing?_spec hjob
  have hfree := h k n task hsteps (beq_iff_eq.mp hid)
  rw [of_decide_eq_true hpasses] at hfree
  cases hfree

theorem Passes.failure? (h : e.Passes id) : e.failure? id = none := by
  rw [Occurrence.failure?, Option.bind_eq_none_iff]
  intro r hr
  obtain ⟨hresult, hid⟩ := Option.filter_eq_some_iff.mp hr
  obtain ⟨k, n, task, p, hsteps, -, hjob, houtcome⟩ := result?_spec hresult
  have hfree := h k n task hsteps (hjob ▸ beq_iff_eq.mp hid)
  generalize task.phase = phase at hfree houtcome
  cases phase <;> first | cases houtcome | cases hfree

end Occurrence

/-! ## Turns of somebody else -/

namespace Occurrence

/-- A claim that is answered is made by somebody who is no processor, or starts a task. -/
theorem claimed?_cases {job : Job} (h : e.claimed? = some job) :
    e.act.action = .ask .claimNext ∨ ∃ k n, e.Starts k n job := by
  have hclaimed := h
  unfold claimed? at h
  split at h
  · next job? hop _ =>
    unfold operation? at hop
    split at hop
    · next operation haction =>
      cases hop
      exact Or.inl haction
    · cases hop
    · next k deed haction =>
      obtain ⟨p, hp, hdeed⟩ := Option.bind_eq_some_iff.mp hop
      cases deed with
      | claim => exact Or.inr ⟨k, p.nextTask, haction, hclaimed, p, hp, rfl⟩
      | step n draw =>
        obtain ⟨task, -, htask⟩ := Option.bind_eq_some_iff.mp hdeed
        unfold Task.operation? at htask
        split at htask <;> cases htask
      | _ => cases hdeed
  · cases h

/-- Whoever holds a job has held it before, or its task has just been started. -/
theorem holder_before (h : e.after.Holds k n id) :
    e.before.Holds k n id ∨ ∃ job, e.Starts k n job ∧ job.id = id := by
  rcases held_before h with hbefore | ⟨p, job, haction, hp, hn, hid, hreply⟩
  · exact Or.inl hbefore
  · exact Or.inr ⟨job, ⟨haction, claimed?_of_spawned haction hp hreply, p, hp, hn⟩, hid⟩

/-- A pass over stuck jobs that does not take a job back leaves its row as it is. -/
theorem row_of_reclaim {olderThan : Int} (hop : e.operation? = some (.reclaimStuck olderThan))
    (hstays : e.takesBack id = false) : e.after.tables.job? id = e.before.tables.job? id := by
  by_contra hmoves
  rw [takesBack, hop] at hstays
  simp [Operation.reclaims, Ne.symm hmoves] at hstays

/-- A claim that is answered, and not with this job, leaves its row as it is. -/
theorem row_of_claim (hop : e.operation? = some .claimNext)
    (hserved : ∀ error, e.reply? ≠ some (.error error))
    (hunclaimed : ∀ job, e.claimed? = some job → job.id ≠ id) :
    e.after.tables.job? id = e.before.tables.job? id := by
  rcases e.tables_cases with ⟨-, hsame⟩ | ⟨operation, reply, hop', hreply, hchange⟩
  · rw [hsame]
  cases hop.symm.trans hop'
  generalize e.after.tables = after at hchange ⊢
  cases hchange with
  | failed _ error => exact absurd hreply (hserved error)
  | looked _ _ hlooks => cases hlooks
  | idle => rfl
  | claimed first hfirst =>
    cases hanswer : (first.claimed e.now).answer with
    | error error =>
      rw [hanswer] at hreply
      exact absurd hreply (hserved error)
    | ok job =>
      rw [hanswer] at hreply
      have hclaimed : e.claimed? = some job := by rw [claimed?, hop, hreply]; rfl
      have hid : job.id = first.id := (Row.read?_spec (Row.answer_eq_ok.mp hanswer)).1
      rw [e.before.tables.updateJobs_job? _ (·.claimed e.now) id fun _ => rfl]
      cases hrow : e.before.tables.job? id with
      | none => rfl
      | some row =>
        rw [Option.map_some, if_neg]
        rw [(Store.Tables.mem_of_job? hrow).2, ← hid]
        simpa using Ne.symm (hunclaimed job hclaimed)

/-- A job that is not pending is not claimed. -/
theorem unclaimed_of_standing (ho : e.before.tables.Ordered)
    (hstanding : e.before.tables.standing id ≠ some Status.pending.name) :
    ∀ job, e.claimed? = some job → job.id ≠ id := by
  rintro job hjob rfl
  exact hstanding (claimed?_standing ho hjob).1

/-- A job that nobody holds is held by nobody behind a turn that does not claim it. -/
theorem free_after (hfree : ∀ k n, ¬ e.before.Holds k n id)
    (hunclaimed : ∀ job, e.claimed? = some job → job.id ≠ id) (k n : Nat) : ¬ e.after.Holds k n id := by
  intro hheld
  rcases holder_before hheld with hbefore | ⟨job, hstarts, hid⟩
  · exact hfree k n hbefore
  · exact hunclaimed job hstarts.claimed hid

/-- A task that is started gets a number that no task of its processor has. -/
theorem Starts.unused {job : Job} (h : e.Starts k n job) (hnumbered : e.before.Numbered) :
    e.before.task? k n = none := by
  obtain ⟨p, hp, hn⟩ := h.number
  rw [World.task?_of_processor hp, Option.eq_none_iff_forall_not_mem]
  intro task htask
  have hlt := hnumbered k p hp n (by rw [Option.mem_def.mp htask]; rfl)
  omega

/-- The row of a job that is neither claimed nor worked on stays as it is. -/
theorem OnlyFails.row_kept (h : e.OnlyFails id) (ho : e.before.tables.Ordered)
    (hold : id ≤ e.before.tables.lastJobId) (hpasses : e.Passes id)
    (hunclaimed : ∀ job, e.claimed? = some job → job.id ≠ id) :
    e.after.tables.job? id = e.before.tables.job? id := by
  by_contra hmoves
  rcases e.tables_cases with ⟨-, hsame⟩ | ⟨operation, reply, hop, hreply, hchange⟩
  · exact hmoves (by rw [hsame])
  have hfate := hchange.fate ho id
  cases hrow : e.before.tables.job? id with
  | none =>
    rw [hrow] at hfate hmoves
    obtain ⟨row', hafter⟩ := Option.ne_none_iff_exists'.mp hmoves
    rw [hafter] at hfate
    have := hfate.new_of_none
    omega
  | some row =>
    rw [hrow] at hfate
    rcases hfate.left with hsame | ⟨-, rfl | rfl⟩ | ⟨-, olderThan, rfl⟩ | ⟨⟨verdict, hverdict⟩, answer, rfl⟩
    · exact hmoves (hsame.trans hrow.symm)
    · exact hmoves (row_of_claim hop (h.claims hop) hunclaimed)
    · exact h.kept hop
    · exact hmoves (row_of_reclaim hop h.stays)
    · obtain ⟨k, n, hdecides⟩ :=
        decides_of_verdict (Turn.leavesVerdicts_of_outcomes h.outcomes) hop hverdict hreply
      obtain ⟨task, operation', answer', hsteps, hop', hverdict', -⟩ := hdecides
      obtain ⟨hid, hholds⟩ := Task.verdict_spec hop' hverdict'
      rw [hpasses k n task hsteps hid] at hholds
      cases hholds

end Occurrence

namespace Failing

variable {calls : Nat} {past failures : List String} {row : Row}

/-- A job that waits and is claimed is tried once more, or nobody tries it: who claimed it is no
processor. -/
theorem claimed (ho : e.before.tables.Ordered) (hnumbered : e.before.Numbered)
    (there : e.before.tables.job? id = some row) (limit : row.maxAttempts = most)
    (count : row.attemptCount = failures.length) (few : failures.length < max 1 most.toNat)
    (free : ∀ k n, ¬ e.before.Holds k n id) {job : Job} (hjob : e.claimed? = some job)
    (hown : job.id = id) : Failing id most (history ++ [e]) e.after failures.length failures := by
  subst hown
  obtain ⟨row', hrow', -, hafter, hcount, hlimit⟩ := Occurrence.claimed?_spec ho hjob
  cases there.symm.trans hrow'
  rcases Occurrence.claimed?_cases hjob with hask | ⟨k, n, hstarts⟩
  · refine .dropped _ _ (Occurrence.claimed?_standing ho hjob).2 (fun k n hheld => ?_)
      ⟨e, by simp, .taken hask ⟨job, hjob, rfl⟩⟩ (Nat.le_of_lt few)
    rcases Occurrence.holder_before hheld with hbefore | ⟨_, hstarts, -⟩
    · exact free k n hbefore
    · cases hask.symm.trans hstarts.action
  · refine .working k n _ (row.claimed e.now) failures _ _ (hstarts.spawned (hstarts.unused hnumbered))
      ⟨rfl, hafter, ?_, ?_, hlimit.trans limit, limit, few⟩ (.ahead .checking rfl)
    · rw [hcount, count]
    · rw [← count]
      rfl

/-- A task that tries a job, and does not step itself, is where it was, or lost. -/
theorem kept_or_lost (howned : Owned e.before id) (found : e.before.task? k n = some task)
    (trying : Trying id most past task.job row e.before)
    (attempt : Attempt most past task.phase calls failures)
    (hrow : e.after.tables.job? id = e.before.tables.job? id) (hpasses : e.Passes id) :
    Failing id most (history ++ [e]) e.after calls failures := by
  have hheld : e.before.Holds k n id := ⟨task, found, attempt.holds, trying.own⟩
  have haway : ¬ e.Steps k n task := fun hsteps => by
    have hlets := hpasses k n task hsteps trying.own
    rw [attempt.holds] at hlets
    cases hlets
  have hfate := e.taskFate k n
  rw [found] at hfate
  generalize hafter : e.after.task? k n = after? at hfate
  cases hfate with
  | kept =>
    exact .working k n task row past calls failures hafter
      { trying with there := hrow.trans trying.there } attempt
  | rested _ hsteps => exact absurd hsteps haway
  | moved _ _ _ hsteps => exact absurd hsteps haway
  | ended _ _ hsteps => exact absurd hsteps haway
  | lost _ haction =>
    refine .dropped calls failures ?_ (fun k' n' hheld' => ?_)
      ⟨e, by simp, .lost k n task haction found trying.own⟩ (Nat.le_trans attempt.calls_le trying.few)
    · rw [Store.Tables.standing, hrow]
      exact howned.processing k n hheld
    · rcases Occurrence.holder_before hheld' with hbefore | ⟨_, hstarts, -⟩
      · obtain ⟨rfl, rfl⟩ := howned.alone k n k' n' hheld hbefore
        obtain ⟨task', hthere, -⟩ := hheld'
        cases hafter.symm.trans hthere
      · cases haction.symm.trans hstarts.action

/-- **A turn of somebody else** leaves a job where it is, starts the next try of it, or drops it. -/
theorem away (h : Failing id most history e.before calls failures) (howned : Owned e.before id)
    (ho : e.before.tables.Ordered) (hold : id ≤ e.before.tables.lastJobId)
    (hnumbered : e.before.Numbered) (hturn : e.OnlyFails id) (hpasses : e.Passes id) :
    Failing id most (history ++ [e]) e.after calls failures := by
  cases h with
  | waiting row failures there pending limit count told few free =>
    by_cases hclaimed : ∃ job, e.claimed? = some job ∧ job.id = id
    · obtain ⟨job, hjob, hown⟩ := hclaimed
      exact claimed ho hnumbered there limit count few free hjob hown
    · have hnone : ∀ job, e.claimed? = some job → job.id ≠ id := fun job hjob hid =>
        hclaimed ⟨job, hjob, hid⟩
      exact .waiting row failures ((hturn.row_kept ho hold hpasses hnone).trans there) pending limit count
        told few (Occurrence.free_after free hnone)
  | working k n task row past calls failures found trying attempt =>
    have hprocessing := howned.processing k n ⟨task, found, attempt.holds, trying.own⟩
    have hnone := Occurrence.unclaimed_of_standing ho (by rw [hprocessing]; decide)
    exact kept_or_lost howned found trying attempt (hturn.row_kept ho hold hpasses hnone) hpasses
  | dropped calls failures processing free drop within =>
    have hnone := Occurrence.unclaimed_of_standing ho (by rw [processing]; decide)
    obtain ⟨c, hc, hdrops⟩ := drop
    refine .dropped calls failures ?_ (Occurrence.free_after free hnone)
      ⟨c, List.mem_append_left _ hc, hdrops⟩ within
    rw [Store.Tables.standing, hturn.row_kept ho hold hpasses hnone]
    exact processing
  | archived failures gone filed all =>
    have hnone := Occurrence.unclaimed_of_standing ho (by rw [Store.Tables.standing, gone]; simp)
    obtain ⟨c, hc, hshelves⟩ := filed
    exact .archived failures ((hturn.row_kept ho hold hpasses hnone).trans gone)
      ⟨c, List.mem_append_left _ hc, hshelves⟩ all

end Failing

/-! ## Steps of the task that tries the job -/

/-- The ways of a task that hears from its handler. -/
theorem Leads.of_hearing {p : Processor σ} {job : Job} {now : Instant}
    {reply? : Option (Except StoreError Reply)} {before after : Phase} {outcome : HandlerOutcome}
    (h : Leads p job now reply? before after) (hears : p.outcome? job before = some outcome) :
    outcome = .done ∨ ∃ failure, outcome.failure? = some failure ∧
      ((p.config.deadLetters.shouldMove job now = true ∧ after = .archiving failure.message) ∨
        (p.config.deadLetters.shouldMove job now = false ∧
          ∃ delay, after = .rescheduling failure.message delay)) := by
  cases h with
  | succeeded _ hdone => exact Or.inl (Option.some.inj (hears.symm.trans hdone))
  | condemned _ _ failure hheard hfails hfinal =>
    cases hears.symm.trans hheard
    exact Or.inr ⟨failure, hfails, Or.inl ⟨hfinal, rfl⟩⟩
  | putOff _ _ failure delay hheard hfails hagain =>
    cases hears.symm.trans hheard
    exact Or.inr ⟨failure, hfails, Or.inr ⟨hagain, delay, rfl⟩⟩
  | called hsilent => cases hsilent.symm.trans hears
  | looked _ _ hwaits => rcases hwaits with rfl | rfl <;> cases hears
  | _ => cases hears

namespace Occurrence

theorem Steps.tables_of_silence (hsteps : e.Steps k n task) (hop : task.operation? e.now = none) :
    e.after.tables = e.before.tables := by
  rw [e.after_tables, hsteps.operation?, hop]
  rfl

/-- A task that asks the store is answered and goes where the answer leads it. -/
theorem OnlyFails.answered (h : e.OnlyFails id) (hsteps : e.Steps k n task) (hown : task.job.id = id)
    {operation : Operation} (hop : task.operation? e.now = some operation) :
    ∃ reply, Change e.now e.before.tables operation (.ok reply) e.after.tables ∧
      e.after.task? k n = if task.phase.behind reply = .ended then none
        else some { task with phase := task.phase.behind reply } := by
  have hasked := hsteps.operation?.trans hop
  obtain ⟨reply, hreply⟩ : ∃ reply, e.reply? = some (.ok reply) := by
    have hanswer : e.reply? = some ((operation.call e.now).execute e.session).1 := by
      rw [reply?, hasked]
      rfl
    cases hcall : ((operation.call e.now).execute e.session).1 with
    | ok reply => exact ⟨reply, hcall ▸ hanswer⟩
    | error error => exact absurd (hcall ▸ hanswer) (h.served k n task hsteps hown error)
  have hcalls : task.phase.callsStore = true := by
    rw [Task.operation?] at hop
    generalize task.phase = phase at hop
    cases phase <;> first | rfl | cases hop
  refine ⟨reply, e.change hasked hreply, ?_⟩
  obtain ⟨p, -, ⟨hrests, -⟩ | ⟨phase, hleads, hafter⟩⟩ := hsteps.cases
  · rcases hrests with ⟨hphase, -⟩ | hphase <;> rw [hphase] at hcalls <;> cases hcalls
  · rw [hreply] at hleads
    rw [hafter, hleads.behind hcalls]

/-- If the task that steps holds its job no more, nobody does. -/
theorem Steps.frees (hsteps : e.Steps k n task) (howned : Owned e.before id)
    (hheld : e.before.Holds k n id)
    (hlets : ∀ task', e.after.task? k n = some task' → task'.phase.holds = false) :
    ∀ k' n', ¬ e.after.Holds k' n' id := by
  intro k' n' hheld'
  rcases holder_before hheld' with hbefore | ⟨_, hstarts, -⟩
  · obtain ⟨rfl, rfl⟩ := howned.alone k n k' n' hheld hbefore
    obtain ⟨task', hafter, hholds, -⟩ := hheld'
    rw [hlets task' hafter] at hholds
    cases hholds
  · obtain ⟨⟨draw, haction⟩, -⟩ := hsteps
    cases haction.symm.trans hstarts.action

end Occurrence

namespace Failing

variable {calls : Nat} {failures past : List String} {row : Row}

/-- Whoever holds a job tries it. -/
theorem attempt (h : Failing id most history e.before calls failures) (howned : Owned e.before id)
    (hfound : e.before.task? k n = some task) (hown : task.job.id = id) (hholds : task.phase.holds = true) :
    ∃ row past, Trying id most past task.job row e.before ∧ Attempt most past task.phase calls failures := by
  have hheld : e.before.Holds k n id := ⟨task, hfound, hholds, hown⟩
  cases h with
  | waiting _ _ _ _ _ _ _ _ free => exact absurd hheld (free k n)
  | dropped _ _ _ free => exact absurd hheld (free k n)
  | archived _ gone =>
    have hprocessing := howned.processing k n hheld
    rw [Store.Tables.standing, gone] at hprocessing
    cases hprocessing
  | working k' n' task' row past _ _ found trying attempt =>
    obtain ⟨rfl, rfl⟩ := howned.alone k n k' n' hheld ⟨task', found, attempt.holds, trying.own⟩
    cases hfound.symm.trans found
    exact ⟨row, past, trying, attempt⟩

/-- The task goes on, and its step does not touch the tables. -/
theorem goes_on (htrying : Trying id most past task.job row e.before) {next : Phase}
    (hafter : e.after.task? k n = some { task with phase := next })
    (htables : e.after.tables = e.before.tables) (hattempt : Attempt most past next calls failures) :
    Failing id most (history ++ [e]) e.after calls failures := by
  have hthere : e.after.tables.job? id = some row := by rw [htables, htrying.there]
  exact .working k n { task with phase := next } row past calls failures hafter
    { htrying with there := hthere } hattempt

/-- The task hears of a failure, and compares its count with the greatest. -/
theorem heard (htrying : Trying id most past task.job row e.before)
    (hattempt : Attempt most past task.phase calls failures) (hturn : e.OnlyFails id)
    (hsteps : e.Steps k n task) {p : Processor σ} (hp : e.before.processors[k]? = some p)
    {outcome : HandlerOutcome} (hears : p.outcome? task.job task.phase = some outcome) :
    Failing id most (history ++ [e]) e.after (calls + (decide (task.phase = .admitted)).toNat)
      (failures ++ (e.failure? id).toList) := by
  have hresult := hsteps.result? hp
  have hfailure := hsteps.failure? hp htrying.own
  have hop : task.operation? e.now = none := by
    rw [Task.operation?]
    generalize task.phase = phase at hears
    cases phase <;> first | rfl | cases hears
  have htables := hsteps.tables_of_silence hop
  rw [hears] at hresult hfailure
  -- it has called by now, and has not failed yet
  obtain ⟨hcalls, rfl⟩ : calls + (decide (task.phase = .admitted)).toNat = past.length + 1 ∧
      failures = past := by
    generalize task.phase = phase at hattempt hears
    cases hattempt with
    | ahead _ before => cases phase <;> first | exact ⟨rfl, rfl⟩ | cases hears | cases before
    | running => exact ⟨rfl, rfl⟩
    | rescheduling | archiving => cases hears
  rw [hcalls]
  obtain ⟨q, hq, hway⟩ := hsteps.cases
  cases hp.symm.trans hq
  rcases hway with ⟨⟨hphase, hsilent⟩ | hphase, -⟩ | ⟨next, hleads, hafter⟩
  · rw [hphase, hsilent] at hears
    cases hears
  · rw [hphase] at hears
    cases hears
  rcases hleads.of_hearing hears with rfl | ⟨failure, hfails, hmove⟩
  · exact absurd rfl (hturn.fails _ hresult htrying.own)
  rw [Option.bind_some, hfails] at hfailure
  rw [hfailure]
  have hyoung := hturn.young k n task p hsteps hp htrying.own (by rw [hresult]; rfl)
  have hcount := htrying.count
  have hlimit := htrying.limit
  rcases hmove with ⟨hfinal, rfl⟩ | ⟨hagain, delay, rfl⟩
  · refine goes_on htrying hafter htables (.archiving failure.message ?_)
    rcases (DeadLetterPolicy.shouldMove_iff ..).mp hfinal with hused | hstale <;> omega
  · refine goes_on htrying hafter htables (.rescheduling failure.message delay ?_)
    have hleft : ¬ task.job.maxAttempts ≤ task.job.attemptCount := fun hused => by
      rw [(DeadLetterPolicy.shouldMove_iff ..).mpr (Or.inl hused)] at hagain
      cases hagain
    omega

/-- The task looks into the ledger, and does not find its job. -/
theorem looked (htrying : Trying id most past task.job row e.before)
    (hunrecorded : e.before.tables.isRecorded id = false) (hturn : e.OnlyFails id)
    (hsteps : e.Steps k n task) (hphase : task.phase = .checking) :
    Failing id most (history ++ [e]) e.after past.length past := by
  obtain ⟨reply, hchange, hafter⟩ := hturn.answered hsteps htrying.own
    (show task.operation? e.now = some (.isProcessed task.job.id) by rw [Task.operation?, hphase])
  obtain ⟨htables, rfl⟩ : e.after.tables = e.before.tables ∧ reply = .flag false := by
    generalize e.after.tables = after at hchange
    cases hchange with
    | looked _ _ _ ledger =>
      refine ⟨rfl, ?_⟩
      rw [ledger _ rfl, htrying.own, hunrecorded]
  have hasks : e.after.task? k n = some { task with phase := .asking } := by
    rw [hphase] at hafter
    exact hafter
  exact goes_on htrying hasks htables (.ahead .asking rfl)

/-- The task asks for admission, or waits for it. -/
theorem queued (htrying : Trying id most past task.job row e.before) (howned : Owned e.before id)
    (hsteps : e.Steps k n task) (hwaits : task.phase = .asking ∨ task.phase = .queued) :
    Failing id most (history ++ [e]) e.after past.length past := by
  have hop : task.operation? e.now = none := by
    rw [Task.operation?]
    rcases hwaits with hphase | hphase <;> rw [hphase]
  have hholds : task.phase.holds = true := by rcases hwaits with hphase | hphase <;> rw [hphase] <;> rfl
  have htables := hsteps.tables_of_silence hop
  obtain ⟨p, -, ⟨hrests, -⟩ | ⟨next, hleads, hafter⟩⟩ := hsteps.cases
  · rcases hwaits with hphase | hphase <;> rcases hrests with ⟨hrunning, -⟩ | hended <;> simp_all
  have hsilent : p.outcome? task.job task.phase = none := by
    rcases hwaits with hphase | hphase <;> rw [hphase] <;> rfl
  rcases (hleads.of_silence hsilent).1 hwaits with rfl | rfl | rfl
  · exact goes_on htrying hafter htables (.ahead .admitted rfl)
  · exact goes_on htrying hafter htables (.ahead .queued rfl)
  · have hheld : e.before.Holds k n id := ⟨task, hsteps.2, hholds, htrying.own⟩
    refine .dropped past.length past ?_ (hsteps.frees howned hheld fun task' hthere => ?_)
      ⟨e, by simp, .turnedAway k n task hsteps htrying.own hwaits hafter⟩ (Nat.le_of_lt htrying.few)
    · rw [htables]
      exact howned.processing k n hheld
    · cases hafter.symm.trans hthere

/-- The task calls its handler or waits for its answer, and hears nothing yet. -/
theorem unanswered (htrying : Trying id most past task.job row e.before) (hsteps : e.Steps k n task)
    {p : Processor σ} (hp : e.before.processors[k]? = some p)
    (hcalled : task.phase = .admitted ∨ task.phase = .running)
    (hsilent : p.outcome? task.job task.phase = none) :
    Failing id most (history ++ [e]) e.after (past.length + 1) past := by
  have hop : task.operation? e.now = none := by
    rw [Task.operation?]
    rcases hcalled with hphase | hphase <;> rw [hphase]
  have htables := hsteps.tables_of_silence hop
  have hrunning : e.after.task? k n = some { task with phase := .running } := by
    obtain ⟨q, hq, ⟨hrests, hafter⟩ | ⟨next, hleads, hafter⟩⟩ := hsteps.cases
    · rw [hafter]
      rcases hrests with ⟨hphase, -⟩ | hphase
      · rw [← hphase]
      · rcases hcalled with hcalled | hcalled <;> cases hphase.symm.trans hcalled
    · cases hp.symm.trans hq
      obtain ⟨-, hadmitted, hnot, -⟩ := hleads.of_silence hsilent
      rw [hafter, hadmitted (hcalled.resolve_right hnot)]
      rfl
  exact goes_on htrying hrunning htables .running

/-- The task puts its job off: its row is pending again, with the message and the count as it was. -/
theorem putOff (htrying : Trying id most past task.job row e.before) (howned : Owned e.before id)
    (hturn : e.OnlyFails id) (hsteps : e.Steps k n task) {message : String} {delay : Span}
    (hphase : task.phase = .rescheduling message delay) (hagain : (past.length : Int) + 1 < most) :
    Failing id most (history ++ [e]) e.after (past ++ [message]).length (past ++ [message]) := by
  have hheld : e.before.Holds k n id := ⟨task, hsteps.2, by rw [hphase]; rfl, htrying.own⟩
  obtain ⟨reply, hchange, hafter⟩ := hturn.answered hsteps htrying.own
    (show task.operation? e.now = some (.markFailed task.job.id message (Processor.retryAt delay e.now)) by
      rw [Task.operation?, hphase])
  have hrow : e.after.tables.job? id =
      some (row.rescheduled message (Processor.retryAt delay e.now) e.now) := by
    generalize hanswer : Except.ok reply = answer at hchange
    generalize e.after.tables = after at hchange ⊢
    cases hchange with
    | failed => cases hanswer
    | looked _ _ hlooks => cases hlooks
    | rescheduled =>
      rw [htrying.own]
      exact Store.Tables.job?_of_write (fun _ => rfl) htrying.there
  have hrowCount := htrying.rowCount
  refine .waiting _ _ hrow (beq_self_eq_true _) htrying.rowLimit ?_ ?_ ?_
    (hsteps.frees howned hheld fun task' hthere => ?_)
  · rw [List.length_append]
    exact hrowCount
  · rw [List.getLast?_concat]
    rfl
  · rw [List.length_append, List.length_singleton]
    omega
  · rw [hphase] at hafter
    cases hafter.symm.trans hthere
    rfl

/-- The task archives its job, with its own count and the message. -/
theorem shelved (htrying : Trying id most past task.job row e.before)
    (hturn : e.OnlyFails id) (hsteps : e.Steps k n task) {message : String}
    (hphase : task.phase = .archiving message) (hfinal : most ≤ past.length + 1) :
    Failing id most (history ++ [e]) e.after (past ++ [message]).length (past ++ [message]) := by
  obtain ⟨reply, hchange, -⟩ := hturn.answered hsteps htrying.own
    (show task.operation? e.now = some (.archive task.job message) by rw [Task.operation?, hphase])
  have htables : e.after.tables = ((e.before.tables.insertDeadLetter
      (Store.letterOf task.job message e.now)).2.deleteJob task.job.id).2 := by
    generalize hanswer : Except.ok reply = answer at hchange
    generalize e.after.tables = after at hchange ⊢
    cases hchange with
    | failed => cases hanswer
    | looked _ _ hlooks => cases hlooks
    | archived => rfl
  have hgone : e.after.tables.job? id = none := by
    rw [htables, htrying.own, Store.Tables.deleteJob_job?, if_pos rfl]
  have hcount := htrying.count
  have hfew := htrying.few
  refine .archived _ hgone ⟨e, by simp, by rw [htrying.there]; rfl, hgone,
    Store.letterOf task.job message e.now (e.before.tables.lastDeadLetterId + 1), by rw [htables]; rfl,
    htrying.own, ?_, ?_⟩ ?_
  · rw [List.length_append]
    exact hcount
  · rw [List.getLast?_concat]
    rfl
  · rw [List.length_append, List.length_singleton]
    omega

/-- **A step of the task that tries the job** leads from one place to the next. -/
theorem step (h : Failing id most history e.before calls failures) (howned : Owned e.before id)
    (hunrecorded : e.before.tables.isRecorded id = false) (hturn : e.OnlyFails id)
    (hsteps : e.Steps k n task) (hown : task.job.id = id) (hholds : task.phase.holds = true) :
    Failing id most (history ++ [e]) e.after (calls + (decide (task.phase = .admitted)).toNat)
      (failures ++ (e.failure? id).toList) := by
  obtain ⟨row, past, htrying, hattempt⟩ := h.attempt howned hsteps.2 hown hholds
  obtain ⟨p, hp, -⟩ := hsteps.cases
  cases hears : p.outcome? task.job task.phase with
  | some outcome => exact heard htrying hattempt hturn hsteps hp hears
  | none =>
    rw [hsteps.failure? hp hown, hears, Option.bind_none, Option.toList_none, List.append_nil]
    generalize hphase : task.phase = phase at hattempt
    cases hattempt with
    | ahead _ before =>
      cases phase with
      | checking => exact looked htrying hunrecorded hturn hsteps hphase
      | asking => exact queued htrying howned hsteps (Or.inl hphase)
      | queued => exact queued htrying howned hsteps (Or.inr hphase)
      | admitted => exact unanswered htrying hsteps hp (Or.inl hphase) hears
      | _ => cases before
    | running => exact unanswered htrying hsteps hp (Or.inr hphase) hears
    | rescheduling message delay again =>
      have hwaits : Failing id most (history ++ [e]) e.after _ _ :=
        putOff htrying howned hturn hsteps hphase again
      rwa [List.length_append, List.length_singleton] at hwaits
    | archiving message final =>
      have hshelved : Failing id most (history ++ [e]) e.after _ _ :=
        shelved htrying hturn hsteps hphase final
      rwa [List.length_append, List.length_singleton] at hshelved

end Failing

end DurableJobs
