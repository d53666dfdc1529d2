import Mathlib.Algebra.Order.Ring.Nat
import DurableJobs.Proofs.Store.Claims
import DurableJobs.Proofs.Store.Whereabouts
import DurableJobs.Proofs.System.Results

/-!
# What the counters say

Handlers, archivings and rescues are counted by the processors, each count raised where its cause is
known: some before the store is asked, some after it has answered, some on one branch only. Tasks are
lost in between, writes fail, and processors race for a row. The counters agree with what happened all
the same, because a turn hears one result at most and asks the store for one thing at most, and what it
counts is a function of these two (`Occurrence.counts`).

So the readings are followed turn by turn (`total_after`), and what they are readings of is a list or a
number made up from the same turns (`Counted`). That retries and dead letters are never more than
failures is no law of a turn: a dead letter is counted long after its failure. It follows from the jobs,
since what is archived has been given up before, once each.
-/

set_option autoImplicit false

namespace DurableJobs

open Store (Operation Reply Tables Session)

variable {σ : Type}

/-! ## Readings -/

/-- What is counted for a type of jobs, and what is counted for all. -/
inductive Counter where
  | processed (succeeded : Bool) (jobType : String)
  | retries (jobType : String)
  | deadLetters (jobType : String)
  | rescues
  deriving DecidableEq

namespace Counter

def metric : Counter → String
  | processed _ _ => Metric.processedTotal
  | retries _ => Metric.retriesTotal
  | deadLetters _ => Metric.deadLetterTotal
  | rescues => Metric.zombiesRescuedTotal

def labels : Counter → List (String × String)
  | processed succeeded jobType => [("status", Metrics.outcomeLabel succeeded), ("type", jobType)]
  | retries jobType | deadLetters jobType => [("type", jobType)]
  | rescues => []

/-- The metric that a counter reads. -/
def key (c : Counter) : MetricKey := ⟨c.metric, c.labels⟩

theorem outcomeLabel_inj {a b : Bool} (h : Metrics.outcomeLabel a = Metrics.outcomeLabel b) : a = b := by
  cases a <;> cases b <;> first | rfl | exact absurd h (by decide)

/-- Counters are told apart by their names and labels. -/
theorem key_inj {a b : Counter} (h : a.key = b.key) : a = b := by
  obtain ⟨hname, hlabels⟩ := MetricKey.mk.inj h
  cases a <;> cases b <;>
    simp [metric, Metric.processedTotal, Metric.retriesTotal, Metric.deadLetterTotal,
      Metric.zombiesRescuedTotal, labels] at hname hlabels ⊢
  · exact ⟨outcomeLabel_inj hlabels.1, hlabels.2⟩
  · exact hlabels
  · exact hlabels

theorem metric_ne_seconds (c : Counter) : c.metric ≠ Metric.processingSeconds := by
  cases c <;> simp [metric, Metric.processedTotal, Metric.retriesTotal, Metric.deadLetterTotal,
    Metric.zombiesRescuedTotal, Metric.processingSeconds]

end Counter

namespace Metrics

theorem lookup_addTo (key other : MetricKey) (n : Nat) (readings : List (MetricKey × Nat)) :
    ((addTo key n readings).lookup other).getD 0 =
      (readings.lookup other).getD 0 + if other = key then n else 0 := by
  induction readings with
  | nil =>
    rw [addTo, List.lookup_cons]
    split <;> simp_all
  | cons first rest ih =>
    obtain ⟨k, m⟩ := first
    rw [addTo]
    split
    · next hkey =>
      subst hkey
      simp only [List.lookup_cons]
      split <;> simp_all
    · next hkey =>
      simp only [List.lookup_cons]
      split <;> simp_all

/-- Raising one reading leaves the others alone. -/
theorem count_add (m : Metrics) (key other : MetricKey) (n : Nat) :
    (m.add key n).count other = m.count other + if other = key then n else 0 :=
  lookup_addTo key other n m.readings

def reading (m : Metrics) (c : Counter) : Nat := m.count c.key

theorem reading_add (m : Metrics) (c d : Counter) (n : Nat) :
    (m.add d.key n).reading c = m.reading c + if c = d then n else 0 := by
  rw [reading, count_add, reading]
  by_cases h : c = d
  · rw [if_pos h, if_pos (congrArg Counter.key h)]
  · rw [if_neg h, if_neg fun hkey => h (Counter.key_inj hkey)]

/-- The lengths of runs are a metric of their own. -/
theorem reading_handled (m : Metrics) (jobType : String) (succeeded : Bool) (c : Counter) :
    (m.handled jobType succeeded).reading c =
      m.reading c + if c = .processed succeeded jobType then 1 else 0 := by
  have hseconds : ∀ labels, c.key ≠ ⟨Metric.processingSeconds, labels⟩ := fun labels h =>
    c.metric_ne_seconds (congrArg MetricKey.name h)
  rw [handled]
  refine (reading_add _ c (.processed succeeded jobType) 1).trans ?_
  rw [reading, count_add, if_neg (hseconds _)]
  rfl

theorem reading_retried (m : Metrics) (jobType : String) (c : Counter) :
    (m.retried jobType).reading c = m.reading c + if c = .retries jobType then 1 else 0 :=
  m.reading_add c (.retries jobType) 1

theorem reading_deadLettered (m : Metrics) (jobType : String) (c : Counter) :
    (m.deadLettered jobType).reading c =
      m.reading c + if c = .deadLetters jobType then 1 else 0 :=
  m.reading_add c (.deadLetters jobType) 1

theorem reading_rescued (m : Metrics) (n : Nat) (c : Counter) :
    (m.rescued n).reading c = m.reading c + if c = .rescues then n else 0 :=
  m.reading_add c .rescues n

end Metrics

/-! ## What a result and what an answer of the store count -/

/-- What is counted when a result is heard. -/
def Result.counts (r : Result) : Counter → Nat
  | .processed succeeded jobType => (r.job.jobType == jobType && r.succeeded == succeeded).toNat
  | .retries jobType => (r.job.jobType == jobType && r.retries).toNat
  | .deadLetters _ | .rescues => 0

theorem Result.counts_of_done (job : Job) (final : Bool) (c : Counter) :
    Result.counts ⟨job, .done, final⟩ c = if c = .processed true job.jobType then 1 else 0 := by
  cases c with
  | processed succeeded jobType =>
    cases succeeded <;> by_cases h : job.jobType = jobType <;>
      simp [counts, Result.succeeded, h, @eq_comm _ jobType]
  | retries | deadLetters | rescues => simp [counts, retries, HandlerOutcome.failure?]

theorem Result.counts_of_failure {job : Job} {outcome : HandlerOutcome} {failure : Failure}
    (hfails : outcome.failure? = some failure) (final : Bool) (c : Counter) :
    Result.counts ⟨job, outcome, final⟩ c =
      (if c = .processed false job.jobType then 1 else 0) +
        if c = .retries job.jobType ∧ failure.isRetryable = true ∧ final = false then 1 else 0 := by
  have hnot : outcome ≠ .done := by
    rintro rfl
    cases hfails
  cases c with
  | processed succeeded jobType =>
    cases succeeded <;> by_cases h : job.jobType = jobType <;>
      simp [counts, Result.succeeded, hnot, h, @eq_comm _ jobType]
  | retries jobType =>
    cases final <;> cases hagain : failure.isRetryable <;> by_cases h : job.jobType = jobType <;>
      simp [counts, Result.retries, hfails, hagain, h, @eq_comm _ jobType]
  | deadLetters | rescues => simp [counts]

/-- What is counted when the store has answered. -/
def Store.Operation.counts : Operation → Except StoreError Reply → Counter → Nat
  | .archive job _, .ok _, c => if c = .deadLetters job.jobType then 1 else 0
  | .reclaimStuck _, .ok (.count n), c => if c = .rescues then n else 0
  | _, _, _ => 0

/-- Handlings and retries are counted when a result is heard, the rest when the store has answered. -/
def Counter.heard : Counter → Bool
  | .processed _ _ | .retries _ => true
  | .deadLetters _ | .rescues => false

theorem Store.Operation.counts_of_heard {c : Counter} (h : c.heard = true) (operation : Operation)
    (reply : Except StoreError Reply) : operation.counts reply c = 0 := by
  unfold Operation.counts
  cases c <;> first | (split <;> simp; done) | exact nomatch h

theorem Result.counts_of_not_heard {c : Counter} (h : c.heard = false) (r : Result) :
    r.counts c = 0 := by
  cases c <;> first | rfl | exact nomatch h

/-- What the store has answered counts, if it was asked. -/
def Store.Session.counts (session : Session) (now : Instant) (operation? : Option Operation)
    (c : Counter) : Nat :=
  operation?.elim 0 fun operation =>
    operation.counts ((operation.call now).execute session).1 c

namespace Processor

@[simp] theorem moveTo_metrics (p : Processor σ) (n : Nat) (phase : Phase) :
    (p.moveTo n phase).metrics = p.metrics := by
  unfold moveTo
  split <;> rfl

theorem reading_settle (config : ProcessorConfig) (job : Job) (outcome : HandlerOutcome)
    (now : Instant) (draw : Nat) (m : Metrics) (c : Counter) :
    (settle config job outcome now draw m).2.reading c =
      m.reading c + Result.counts ⟨job, outcome, config.deadLetters.shouldMove job now⟩ c := by
  cases hfails : outcome.failure? with
  | none =>
    obtain rfl : outcome = .done := by cases outcome <;> first | rfl | cases hfails
    simp only [settle, hfails, Metrics.reading_handled, Result.counts_of_done]
  | some failure =>
    simp only [settle, hfails, Result.counts_of_failure hfails]
    cases config.deadLetters.shouldMove job now <;> cases failure.isRetryable <;>
      simp [Metrics.reading_handled, Metrics.reading_retried, Nat.add_assoc]

theorem reading_finish (p : Processor σ) (task : Task) (outcome : HandlerOutcome) (now : Instant)
    (draw : Nat) (c : Counter) :
    (p.finish task outcome now draw).metrics.reading c = p.metrics.reading c +
      Result.counts ⟨task.job, outcome, p.config.deadLetters.shouldMove task.job now⟩ c :=
  (congrArg (Metrics.reading · c) (moveTo_metrics _ _ _)).trans
    (reading_settle p.config task.job outcome now draw p.metrics c)

/-- A step counts the result that its task hears, or what the store answers it. -/
theorem reading_step (p : Processor σ) (task : Task) (moment : Moment) (draw : Nat) (s : Session)
    (c : Counter) :
    (p.step task moment draw s).1.metrics.reading c = p.metrics.reading c +
      ((p.outcome? task.job task.phase).elim 0 fun outcome =>
        Result.counts ⟨task.job, outcome, p.config.deadLetters.shouldMove task.job moment.wall⟩ c) +
      s.counts moment.wall (task.operation? moment.wall) c := by
  obtain ⟨n, job, phase⟩ := task
  unfold step
  cases phase <;> simp only [outcome?, Task.operation?, Session.counts, Option.elim_none,
    Option.elim_some, Operation.call, Store.Call.execute_map]
  case checking =>
    rcases (Store.isProcessed job.id).execute s with ⟨_ | _ | _, _⟩ <;>
      simp [Operation.counts]
  case admitted =>
    rcases hcall : p.registry.dispatch (JobContext.ofJob job) job.payload p.collaborators
      with ⟨_ | _, collaborators⟩
    · exact reading_finish { p with collaborators } ⟨n, job, .admitted⟩ _ _ _ _
    · simp
  case running =>
    rcases hcall : p.registry.resume (JobContext.ofJob job) p.collaborators
      with _ | ⟨outcome, collaborators⟩
    · rfl
    · exact reading_finish { p with collaborators } ⟨n, job, .running⟩ _ _ _ _
  case completing =>
    rcases (Store.completeProcessed job.id moment.wall).execute s with ⟨_ | _, _⟩ <;>
      simp [Operation.counts]
  case archiving message =>
    rcases (Store.archive job message moment.wall).execute s with ⟨_ | _, _⟩
    · simp [Operation.counts, Except.map]
    · simp [Operation.counts, Except.map, Metrics.reading_deadLettered]
  all_goals simp [Operation.counts]

/-- **What a deed counts** is the result that is heard in it and what the store answers. -/
theorem reading_act (p : Processor σ) (deed : Deed σ) (moment : Moment) (s : Session) (c : Counter) :
    (p.act deed moment s).1.metrics.reading c = p.metrics.reading c +
      ((p.result? deed moment.wall).elim 0 (·.counts c)) +
      s.counts moment.wall (p.operation? deed moment.wall) c := by
  cases deed with
  | produce job attempts =>
    rw [act, Producer.enqueue]
    rcases (Store.enqueue job attempts moment.wall).execute s with ⟨_ | _, _⟩ <;> rfl
  | rescue timeout =>
    simp only [act, operation?, Session.counts, Option.elim_some, Operation.call,
      Store.Call.execute_map, Reaper.rescue]
    rcases (Store.reclaimStuck (Reaper.age timeout) moment.wall).execute s with ⟨_ | count, _⟩
    · rfl
    · -- a pass that takes nothing back counts nothing, which is zero of it
      dsimp only [Except.map, Operation.counts]
      split
      · exact p.metrics.reading_rescued count c
      · next hnone =>
        obtain rfl : count = 0 := by omega
        split <;> rfl
  | claim =>
    simp only [act, operation?, claim]
    split
    · rfl
    · simp only [Session.counts, Option.elim_some, Operation.call, Store.Call.execute_map]
      rcases (Store.claimNext moment.wall).execute s with ⟨_ | _ | _, _⟩ <;> rfl
  | step n draw =>
    simp only [act, operation?, result?, stepping?]
    cases p.task? n with
    | none => rfl
    | some task =>
      refine (p.reading_step task moment draw s c).trans ?_
      simp only [Option.bind_some]
      cases p.outcome? task.job task.phase <;> rfl
  | lose n => exact congrArg (Metrics.reading · c) (moveTo_metrics _ _ _)
  | cancel | register | disturb => rfl

end Processor

/-! ## What a turn counts -/

/-- What all processors have counted. -/
def World.total (w : World σ) (c : Counter) : Nat :=
  (w.processors.map (·.metrics.reading c)).sum

/-- What the processors count: that is left to them, and so is archiving and taking back. -/
def Store.Operation.isCounted : Operation → Bool
  | .archive _ _ | .reclaimStuck _ => true
  | _ => false

/-- Jobs are archived and taken back by processors only. -/
def Turn.leavesCounting (turn : Turn σ) : Bool :=
  match turn.action with
  | .ask operation => !operation.isCounted
  | _ => true

theorem Store.Operation.counts_of_uncounted {operation : Operation}
    (h : operation.isCounted = false) (reply : Except StoreError Reply) (c : Counter) :
    operation.counts reply c = 0 := by
  cases operation <;> first | rfl | exact nomatch h

namespace Occurrence

/-- What a turn counts: the result that is heard in it and what the store answers. -/
def counts (e : Occurrence σ) (c : Counter) : Nat :=
  e.result?.elim 0 (·.counts c) + e.session.counts e.now e.operation? c

end Occurrence

theorem countP_single {α : Type} (p : α → Bool) (a : α) : [a].countP p = (p a).toNat := by
  cases h : p a <;> simp [h]

/-- A sum over a list goes with the one entry that is changed. -/
theorem sum_map_set {α : Type} (f : α → Nat) {l : List α} {k : Nat} {old : α} (h : l[k]? = some old)
    (new : α) {n : Nat} (hnew : f new = f old + n) :
    ((l.set k new).map f).sum = (l.map f).sum + n := by
  induction l generalizing k with
  | nil => cases h
  | cons first rest ih =>
    cases k with
    | zero =>
      cases h
      simp only [List.set_cons_zero, List.map_cons, List.sum_cons, hnew]
      omega
    | succ k =>
      have hrest := ih h
      simp only [List.set_cons_succ, List.map_cons, List.sum_cons, hrest]
      omega

/-- The totals grow turn by turn. -/
theorem Occurrence.total_after (e : Occurrence σ) (hturn : e.act.leavesCounting = true) (c : Counter) :
    e.after.total c = e.before.total c + e.counts c := by
  unfold Occurrence.counts Occurrence.after World.act World.total Occurrence.result?
    Occurrence.operation?
  unfold Turn.leavesCounting at hturn
  cases haction : e.act.action with
  | ask operation =>
    rw [haction] at hturn
    have huncounted : operation.isCounted = false := by simpa using hturn
    simp [Session.counts, Operation.counts_of_uncounted huncounted]
  | launch => simp [Session.counts, Processor.create, Metrics.reading, Metrics.count, Metrics.zero]
  | act k deed =>
    dsimp only
    cases hp : e.before.processors[k]? with
    | none => rfl
    | some p =>
      refine (sum_map_set (fun q : Processor σ => q.metrics.reading c) hp _
        ((p.reading_act deed e.act.moment e.session c).trans (Nat.add_assoc ..))).trans ?_
      rfl

/-! ## What the store did -/

namespace Store

variable {now : Instant} {tables after : Tables} {operation : Operation}
  {reply : Except StoreError Reply}

theorem Operation.counts_error (operation : Operation) (error : StoreError) (c : Counter) :
    operation.counts (.error error) c = 0 := by
  cases operation <;> rfl

theorem Operation.counts_of_looks (h : operation.looks = true) (c : Counter) :
    operation.counts reply c = 0 :=
  Operation.counts_of_uncounted (by cases operation <;> first | rfl | exact nomatch h) reply c

/-- The dead letters that a change writes are counted as it is answered. -/
theorem Change.counts_deadLetters (h : Change now tables operation reply after) (hf : tables.Filed)
    (jobType : String) :
    operation.counts reply (.deadLetters jobType) =
      (after.deadLetters.filter fun letter => decide (letter ∉ tables.deadLetters)).countP
        (·.jobType == jobType) := by
  have hnone : (∀ letter ∈ after.deadLetters, letter ∈ tables.deadLetters) →
      (after.deadLetters.filter fun letter => decide (letter ∉ tables.deadLetters)).countP
        (·.jobType == jobType) = 0 := fun hold => by
    rw [List.filter_eq_nil_iff.mpr fun letter hletter => by simp [hold letter hletter]]
    rfl
  have hother : (∀ job lastError, operation ≠ .archive job lastError) →
      ∀ letter ∈ after.deadLetters, letter ∈ tables.deadLetters := fun hnot letter hletter =>
    (h.archive_grows hletter).resolve_right fun ⟨job, lastError, hop, _⟩ => hnot job lastError hop
  cases h with
  | archived job lastError =>
    -- the new letter has an id of its own
    have hnew : letterOf job lastError now (tables.lastDeadLetterId + 1) ∉ tables.deadLetters :=
      fun hmem => by
        have hid := hf.handedOut _ hmem
        change tables.lastDeadLetterId + 1 ≤ tables.lastDeadLetterId at hid
        omega
    have hold : tables.deadLetters.filter (fun letter => decide (letter ∉ tables.deadLetters)) = [] :=
      List.filter_eq_nil_iff.mpr fun letter hletter => by simp [hletter]
    change _ = ((tables.deadLetters ++ [_]).filter _).countP _
    rw [List.filter_append, hold, List.nil_append, List.filter_singleton, decide_eq_true hnew]
    by_cases hsame : job.jobType = jobType <;>
      simp [Operation.counts, letterOf, hsame, @eq_comm _ jobType]
  | failed _ error => exact (operation.counts_error error _).trans (hnone fun _ h => h).symm
  | looked _ _ hlooks => exact (Operation.counts_of_looks hlooks _).trans (hnone fun _ h => h).symm
  | reclaimed => exact (hnone fun _ h => h).symm
  | _ => exact (hnone (hother fun _ _ h => nomatch h)).symm

/-- The rows that a pass changes are counted as it is answered. -/
theorem Change.counts_rescues (h : Change now tables operation reply after) (ho : tables.Ordered) :
    operation.counts reply .rescues = tables.jobs.countP fun row =>
      operation.reclaims && tables.job? row.id != after.job? row.id := by
  have hnone : operation.reclaims = false → (tables.jobs.countP fun row =>
      operation.reclaims && tables.job? row.id != after.job? row.id) = 0 := fun hnot => by
    simp [hnot]
  cases h with
  | reclaimed olderThan threshold =>
    change (tables.jobs.filter _).length = _
    rw [← List.countP_eq_length_filter]
    refine List.countP_congr fun row hrow => ?_
    rw [tables.updateJobs_job? _ (·.reclaimed now) row.id fun _ => rfl, ho.job?_of_mem hrow,
      Option.map_some]
    split
    · next hpick => simpa [Operation.reclaims, hpick] using row.reclaimed_ne now
    · next hpick => simp [hpick]
  | failed _ error =>
    rw [operation.counts_error error]
    simp
  | looked _ _ hlooks =>
    rw [Operation.counts_of_looks hlooks]
    simp
  | _ => exact (hnone rfl).symm

end Store

theorem Task.archives_of_condemns (task : Task) (h : task.phase.condemns = true) (now : Instant) :
    ∃ message, task.operation? now = some (.archive task.job message) := by
  obtain ⟨n, job, phase⟩ := task
  cases phase <;> first | exact ⟨_, rfl⟩ | exact nomatch h

namespace Occurrence

variable {e : Occurrence σ}

/-- The dead letters that are there behind a turn and were not before it. -/
def letters (e : Occurrence σ) : List DeadLetter :=
  e.after.tables.deadLetters.filter fun letter => decide (letter ∉ e.before.tables.deadLetters)

/-- How many rows a pass over stuck jobs changes in this turn. -/
def rowsTakenBack (e : Occurrence σ) : Nat := e.before.tables.jobs.countP fun row => e.takesBack row.id

theorem filed (e : Occurrence σ) (h : e.before.tables.Filed) : e.after.tables.Filed := by
  rcases e.tables_cases with ⟨-, hsame⟩ | ⟨_, _, -, -, hchange⟩
  · rw [hsame]
    exact h
  · exact hchange.filed h

/-- Some counters go by the result alone. -/
theorem counts_heard {c : Counter} (h : c.heard = true) (e : Occurrence σ) :
    e.counts c = e.result?.elim 0 (·.counts c) := by
  rw [counts, Session.counts]
  cases e.operation? with
  | none => rfl
  | some operation => rw [Option.elim_some, Operation.counts_of_heard h, Nat.add_zero]

/-- The others go by what is asked and answered alone. -/
theorem counts_answered {c : Counter} (h : c.heard = false) {operation : Operation}
    {reply : Except StoreError Reply} (hop : e.operation? = some operation)
    (hreply : e.reply? = some reply) : e.counts c = operation.counts reply c := by
  rw [Occurrence.reply?, hop] at hreply
  cases hreply
  rw [counts, hop]
  cases e.result? with
  | none => exact Nat.zero_add _
  | some r => rw [Option.elim_some, r.counts_of_not_heard h, Nat.zero_add]; rfl

theorem counts_silent {c : Counter} (h : c.heard = false) (hop : e.operation? = none) :
    e.counts c = 0 := by
  rw [counts, hop]
  cases e.result? with
  | none => rfl
  | some r => rw [Option.elim_some, r.counts_of_not_heard h]; rfl

theorem counts_letters (hf : e.before.tables.Filed) (jobType : String) :
    e.counts (.deadLetters jobType) = e.letters.countP (·.jobType == jobType) := by
  rcases e.tables_cases with ⟨hop, hsame⟩ | ⟨operation, reply, hop, hreply, hchange⟩
  · rw [counts_silent rfl hop, letters, hsame, List.filter_eq_nil_iff.mpr fun letter hletter => by
      simp [hletter]]
    rfl
  · exact (counts_answered rfl hop hreply).trans (hchange.counts_deadLetters hf jobType)

theorem counts_rescues (ho : e.before.tables.Ordered) : e.counts .rescues = e.rowsTakenBack := by
  rcases e.tables_cases with ⟨hop, -⟩ | ⟨operation, reply, hop, hreply, hchange⟩
  · rw [counts_silent (c := .rescues) rfl hop]
    simp [rowsTakenBack, takesBack, hop]
  · refine (counts_answered rfl hop hreply).trans ((hchange.counts_rescues ho).trans ?_)
    simp only [rowsTakenBack, takesBack, hop, Option.any_some]

/-- A task that archives asks the store for it, and is answered. -/
theorem archives_of_passing {job : Job} (h : Milestone.archive.passing? e = some job) :
    ∃ message answer, e.operation? = some (.archive job message) ∧ e.reply? = some (.ok answer) := by
  obtain ⟨k, n, task, hsteps, hpasses, rfl⟩ := Milestone.passing?_spec h
  obtain ⟨hcondemns, hok⟩ := Bool.and_eq_true_iff.mp hpasses
  obtain ⟨message, hop⟩ := task.archives_of_condemns hcondemns e.now
  obtain ⟨reply, hreply, hisOk⟩ := (Option.any_eq_true _ _).mp hok
  cases reply with
  | error => cases hisOk
  | ok answer => exact ⟨message, answer, hsteps.operation?.trans hop, hreply⟩

/-- A dead letter is counted when a task archives its job. -/
theorem counts_archived (hturn : e.act.leavesCounting = true) (jobType : String) :
    e.counts (.deadLetters jobType) =
      (Milestone.archive.passing? e).toList.countP (·.jobType == jobType) := by
  cases hpassing : Milestone.archive.passing? e with
  | some job =>
    obtain ⟨message, answer, hop, hreply⟩ := archives_of_passing hpassing
    rw [counts_answered rfl hop hreply, Option.toList_some, List.countP_singleton]
    by_cases hsame : job.jobType = jobType <;> simp [Operation.counts, hsame, @eq_comm _ jobType]
  | none =>
    rcases e.tables_cases with ⟨hop, -⟩ | ⟨operation, reply, hop, hreply, -⟩
    · exact counts_silent rfl hop
    · rw [counts_answered rfl hop hreply]
      cases reply with
      | error error => exact operation.counts_error error _
      | ok answer =>
        -- an archiving that is answered is the step of a task, which passes then
        have hnot : ∀ job message, operation ≠ .archive job message := by
          rintro job message rfl
          rcases e.asked hop with haction | ⟨k, n, task, hsteps, htask⟩ | hroutine
          · rw [Turn.leavesCounting, haction] at hturn
            cases hturn
          · obtain ⟨hcondemns, rfl⟩ := Task.condemns_of_operation htask
            have hpasses : Milestone.archive.passes e task = true :=
              Bool.and_eq_true_iff.mpr ⟨hcondemns, by rw [hreply]; rfl⟩
            rw [Milestone.passing?_of_steps hsteps hpasses] at hpassing
            cases hpassing
          · cases hroutine
        unfold Operation.counts
        split
        · next job message _ _ => exact absurd rfl (hnot job message)
        · exact if_neg fun h => nomatch h
        · rfl

end Occurrence

/-! ## Runs -/

/-- All dead letters that have ever been written, in order. -/
def letters (history : List (Occurrence σ)) : List DeadLetter := history.flatMap (·.letters)

/-- The counters read what has happened. -/
structure Counted (history : List (Occurrence σ)) (w : World σ) : Prop where
  ordered : w.tables.Ordered
  filed : w.tables.Filed
  processed : ∀ succeeded jobType, w.total (.processed succeeded jobType) =
    (results history).countP fun r => r.job.jobType == jobType && r.succeeded == succeeded
  retries : ∀ jobType, w.total (.retries jobType) =
    (results history).countP fun r => r.job.jobType == jobType && r.retries
  deadLetters : ∀ jobType, w.total (.deadLetters jobType) =
    (letters history).countP (·.jobType == jobType)
  archived : ∀ jobType, w.total (.deadLetters jobType) =
    (archivedJobs history).countP (·.jobType == jobType)
  rescues : w.total .rescues = (history.map (·.rowsTakenBack)).sum

theorem Counted.start : Counted [] (World.empty : World σ) where
  ordered := Store.Tables.empty_ordered
  filed := Store.Tables.empty_filed
  processed _ _ := rfl
  retries _ := rfl
  deadLetters _ := rfl
  archived _ := rfl
  rescues := rfl

variable {history : List (Occurrence σ)} {e : Occurrence σ}

theorem letters_snoc (history : List (Occurrence σ)) (e : Occurrence σ) :
    letters (history ++ [e]) = letters history ++ e.letters := by
  rw [letters, List.flatMap_append, List.flatMap_singleton, ← letters]

theorem Counted.next (h : Counted history e.before) (hturn : e.act.leavesCounting = true) :
    Counted (history ++ [e]) e.after where
  ordered := e.ordered h.ordered
  filed := e.filed h.filed
  processed succeeded jobType := by
    rw [e.total_after hturn, h.processed, results_snoc, List.countP_append,
      Occurrence.counts_heard rfl]
    cases e.result? with
    | none => rfl
    | some r => simp only [Option.elim_some, Option.toList_some, countP_single, Result.counts]
  retries jobType := by
    rw [e.total_after hturn, h.retries, results_snoc, List.countP_append,
      Occurrence.counts_heard rfl]
    cases e.result? with
    | none => rfl
    | some r => simp only [Option.elim_some, Option.toList_some, countP_single, Result.counts]
  deadLetters jobType := by
    rw [e.total_after hturn, h.deadLetters, Occurrence.counts_letters h.filed, letters_snoc,
      List.countP_append]
  archived jobType := by
    rw [e.total_after hturn, h.archived, Occurrence.counts_archived hturn, archivedJobs,
      archivedJobs, Milestone.passed_snoc, List.countP_append]
  rescues := by
    rw [e.total_after hturn, h.rescues, Occurrence.counts_rescues h.ordered, List.map_append,
      List.sum_append, List.map_singleton, List.sum_singleton]

theorem counted_run (turns : List (Turn σ)) (hturns : ∀ turn ∈ turns, turn.leavesCounting = true) :
    Counted (World.empty.occurrences turns) (World.empty.actAll turns) :=
  Run.invariant Counted.start
    (fun _ w turn hturn h => Counted.next (e := ⟨w, turn⟩) h hturn) turns hturns

/-- Two tests that never both hold pick no more than a test that both imply. -/
theorem countP_add_le {α : Type} {p q r : α → Bool} (h : ∀ a, (p a).toNat + (q a).toNat ≤ (r a).toNat)
    (l : List α) : l.countP p + l.countP q ≤ l.countP r := by
  have hone : ∀ b : Bool, (if b = true then 1 else 0) = b.toNat := by decide
  induction l with
  | nil => exact Nat.le_refl _
  | cons a l ih =>
    have hhead := h a
    simp only [List.countP_cons, hone]
    omega

/-- Who is tried again is not given up, and both have failed. -/
theorem Result.retries_add_condemns_le (r : Result) (jobType : String) :
    (r.job.jobType == jobType && r.retries).toNat + (r.job.jobType == jobType && r.condemns).toNat ≤
      (r.job.jobType == jobType && r.succeeded == false).toNat := by
  rw [Result.retries, Result.condemns, Result.succeeded_eq]
  cases r.job.jobType == jobType <;> cases r.outcome.failure? <;> cases r.final <;>
    simp [Bool.toNat_le]

/-- **Counters.** In every run in which archiving and taking back are left to the processors, and for
every type of jobs: as many handlings are counted as there are calls of handlers whose result has been
heard, successes when the handler was done and failures when it failed or panicked; the dead letters
counted are the letters ever written; the rescues counted are the changes that passes over stuck jobs
made; and retries and dead letters together are no more than the failures. -/
theorem counters_agree (turns : List (Turn σ)) (hturns : ∀ turn ∈ turns, turn.leavesCounting = true)
    (jobType : String) :
    ((World.empty.actAll turns).total (.processed true jobType) +
        (World.empty.actAll turns).total (.processed false jobType) =
      (calledJobs (World.empty.occurrences turns)).countP fun job =>
        job.jobType == jobType && decide (job ∈ answeredJobs (World.empty.occurrences turns))) ∧
    (∀ succeeded, (World.empty.actAll turns).total (.processed succeeded jobType) =
      (results (World.empty.occurrences turns)).countP fun r =>
        r.job.jobType == jobType && decide (r.outcome = .done) == succeeded) ∧
    (World.empty.actAll turns).total (.deadLetters jobType) =
      (letters (World.empty.occurrences turns)).countP (·.jobType == jobType) ∧
    (World.empty.actAll turns).total .rescues =
      ((World.empty.occurrences turns).map (·.rowsTakenBack)).sum ∧
    (World.empty.actAll turns).total (.retries jobType) +
        (World.empty.actAll turns).total (.deadLetters jobType) ≤
      (World.empty.actAll turns).total (.processed false jobType) := by
  have hcounted := counted_run turns hturns
  have hanswered := Answered.run turns
  refine ⟨?_, fun succeeded => hcounted.processed succeeded jobType, hcounted.deadLetters jobType,
    hcounted.rescues, ?_⟩
  · rw [← hanswered.countP_answered (·.jobType == jobType), answeredJobs, List.countP_map,
      hcounted.processed, hcounted.processed,
      List.countP_eq_countP_filter_add _ (_ ∘ Result.job) Result.succeeded, List.countP_filter,
      List.countP_filter]
    simp
  · have hcondemned := hanswered.countP_archived_le (·.jobType == jobType)
    rw [condemnedJobs, List.countP_map, List.countP_filter] at hcondemned
    rw [hcounted.retries, hcounted.archived, hcounted.processed]
    refine Nat.le_trans (Nat.add_le_add_left hcondemned _) ?_
    exact countP_add_le (fun r => r.retries_add_condemns_le jobType) _

/-- Three jobs fail, by a panic or for the time being: one is put off, one archived, and one would be
archived if the database did not fail the write. A fourth one is taken back from a lost task. -/
def countedRun : List (Turn Unit) :=
  let enqueue (maxAttempts : Int) : Turn Unit :=
    .quiet 0 (.ask (.enqueue ⟨"a", [], none, none, some maxAttempts, none⟩ Store.standardMaxAttempts))
  [.quiet 0 (.launch ProcessorConfig.standard
    (Registry.empty.register "a" (.immediate fun context _ s =>
      (if context.jobId = 1 then .failed (.transient "busy") else .panicked, s))) .standard ()),
   enqueue 2, enqueue 1, enqueue 1, enqueue 1,
   .quiet 0 (.act 0 .claim), .quiet 0 (.act 0 .claim), .quiet 0 (.act 0 .claim), .quiet 0 (.act 0 .claim),
   .quiet 0 (.act 0 (.lose 3)),
   .quiet 0 (.act 0 (.step 0 0)), .quiet 0 (.act 0 (.step 1 0)), .quiet 0 (.act 0 (.step 2 0)),
   .quiet 0 (.act 0 (.step 0 0)), .quiet 0 (.act 0 (.step 1 0)), .quiet 0 (.act 0 (.step 2 0)),
   .quiet 0 (.act 0 (.step 0 0)), .quiet 0 (.act 0 (.step 1 0)), .quiet 0 (.act 0 (.step 2 0)),
   .quiet 0 (.act 0 (.step 0 0)), .quiet 0 (.act 0 (.step 1 0)),
   { Turn.quiet 0 (.act 0 (.step 2 0)) with faults := [true] },
   .quiet 1 (.act 0 (.rescue Span.zero))]

theorem counters_agree_countedRun :
    (World.empty.actAll countedRun).total (.processed false "a") = 3 ∧
    (World.empty.actAll countedRun).total (.retries "a") = 1 ∧
    (World.empty.actAll countedRun).total (.deadLetters "a") = 1 ∧
    (World.empty.actAll countedRun).total .rescues = 2 ∧
    (letters (World.empty.occurrences countedRun)).countP (·.jobType == "a") = 1 ∧
    ((World.empty.occurrences countedRun).map (·.rowsTakenBack)).sum = 2 := by
  obtain ⟨-, -, hletters, hrescues, -⟩ := counters_agree countedRun (by decide) "a"
  have hdead : (World.empty.actAll countedRun).total (.deadLetters "a") = 1 := by decide
  have htaken : (World.empty.actAll countedRun).total .rescues = 2 := by decide
  exact ⟨by decide, by decide, hdead, htaken, hletters.symm.trans hdead, hrescues.symm.trans htaken⟩

end DurableJobs
