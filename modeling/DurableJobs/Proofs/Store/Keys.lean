import DurableJobs.Producer
import DurableJobs.Proofs.Store.AllOrNothing
import DurableJobs.Proofs.Store.Columns

/-!
# Keys

A live row that came with a key keeps others with that key out, whatever has become of it: it may be
pending, closed in any way, or put off for years. The key is gone when the row is, and that is when the
job is archived. What is made of the dead letter later has no key.

So the rows that hold keys are known from the history alone. `Change.holds` says for one exchange which
rows hold a key behind it, and the history of a key, `Scheduled`, is the same sentence about a run. That
no key is held twice is kept by the one statement that writes keys.
-/

set_option autoImplicit false

namespace DurableJobs.Store

/-! ## Rows that hold keys -/

namespace Tables

/-- A live row holds a key. -/
def Holds (tables : Tables) (key : String) (id : Int) : Prop :=
  ∃ row, tables.job? id = some row ∧ row.idempotencyKey = some key

theorem keyTaken_iff {tables : Tables} (ho : tables.Ordered) {key : String} :
    tables.keyTaken (some key) = true ↔ ∃ id, tables.Holds key id := by
  simp only [keyTaken, Option.isSome_some, Bool.true_and, List.any_eq_true, beq_iff_eq]
  constructor
  · rintro ⟨row, hmem, hkey⟩
    exact ⟨row.id, row, ho.job?_of_mem hmem, hkey⟩
  · rintro ⟨id, row, hrow, hkey⟩
    exact ⟨row, (mem_of_job? hrow).1, hkey⟩

/-- A write that keeps ids and keys moves no key. -/
theorem holds_updateJobs (tables : Tables) (picks : Row → Bool) (change : Row → Row) (key : String)
    (id : Int) (hkeeps : ∀ row, (change row).id = row.id ∧
      (change row).idempotencyKey = row.idempotencyKey) :
    (tables.updateJobs picks change).2.Holds key id ↔ tables.Holds key id := by
  have hsame : ∀ row, (if picks row then change row else row).idempotencyKey = row.idempotencyKey := by
    intro row
    split
    · exact (hkeeps row).2
    · rfl
  unfold Holds
  rw [tables.updateJobs_job? picks change id fun row => (hkeeps row).1]
  simp [hsame]

/-- A row that is put in brings its key. -/
theorem Ordered.holds_insertJob {tables : Tables} (ho : tables.Ordered) (job : NewJob) (attempts : Int)
    (now : Instant) (key : String) (id : Int) :
    (tables.insertJob (Row.fresh job attempts now)).2.Holds key id ↔
      tables.Holds key id ∨ job.idempotencyKey = some key ∧ id = tables.lastJobId + 1 := by
  unfold Holds
  rw [tables.insertJob_job? _ id fun _ => rfl]
  by_cases hid : id = tables.lastJobId + 1
  · rw [if_pos hid, ho.job?_of_fresh (by omega)]
    simp [hid, Row.fresh]
  · rw [if_neg hid, Option.or_none]
    simp [hid]

end Tables

/-! ## What an exchange does to keys -/

/-- The key that a job comes with when it is put in, and the id it gets. -/
def Operation.keyed? : Operation → Except StoreError Reply → Option (String × Int)
  | enqueue job _, .ok (.job created) => job.idempotencyKey.map (·, created.id)
  | _, _ => none

def Exchange.keyed? (e : Exchange) : Option (String × Int) := e.act.operation.keyed? e.reply

section Change

variable {now : Instant} {tables after : Tables} {operation : Operation}
  {reply : Except StoreError Reply} {key : String} {id : Int}

theorem keyed?_error (operation : Operation) (e : StoreError) : operation.keyed? (.error e) = none := by
  cases operation <;> rfl

theorem keyed?_of_looks (h : operation.looks = true) (reply : Except StoreError Reply) :
    operation.keyed? reply = none := by
  cases operation <;> first | rfl | cases h

/-- **Who holds a key behind an exchange**: whoever held it and has not been archived, and whoever came
with it. -/
theorem Change.holds (h : Change now tables operation reply after) (ho : tables.Ordered)
    (hfits : operation.fits = true) (key : String) (id : Int) :
    after.Holds key id ↔
      (tables.Holds key id ∧ operation.archived? reply ≠ some id) ∨
        operation.keyed? reply = some (key, id) := by
  -- most operations archive nothing and put nothing in
  have plain : ∀ {operation : Operation} {reply : Except StoreError Reply} {after : Tables},
      operation.archived? reply = none → operation.keyed? reply = none →
      (after.Holds key id ↔ tables.Holds key id) →
      (after.Holds key id ↔ (tables.Holds key id ∧ operation.archived? reply ≠ some id) ∨
        operation.keyed? reply = some (key, id)) := by
    intro operation reply after harchived hkeyed hsame
    simp [harchived, hkeyed, hsame]
  have hrecord : ∀ entry, (tables.record entry).Holds key id ↔ tables.Holds key id := by
    intro entry
    simp only [Tables.Holds, record_job?]
  cases h with
  | failed _ error => exact plain (archived?_error _ error) (keyed?_error _ error) Iff.rfl
  | looked _ _ hlooks => exact plain (archived?_of_looks hlooks _) (keyed?_of_looks hlooks _) Iff.rfl
  | idle | discarded | purged => exact plain rfl rfl Iff.rfl
  | enqueued job attempts =>
    obtain ⟨created, hanswer⟩ := Row.fresh_answer hfits now (tables.lastJobId + 1)
    have hid : created.id = tables.lastJobId + 1 := (Row.read?_spec (Row.answer_eq_ok.mp hanswer)).1
    rw [hanswer, ho.holds_insertJob]
    cases hkey : job.idempotencyKey with
    | none => simp [Operation.archived?, Operation.keyed?, Except.map, hkey]
    | some other => simp [Operation.archived?, Operation.keyed?, Except.map, hkey, hid, eq_comm]
  | restored _ attempts letter =>
    refine plain rfl rfl ((ho.holds_insertJob (jobOfLetter letter) attempts now key id).trans ?_)
    exact or_iff_left fun h => nomatch h.1
  | claimed | completed | rescheduled | buried | reclaimed | cancelled =>
    exact plain rfl rfl (tables.holds_updateJobs _ _ key id fun _ => ⟨rfl, rfl⟩)
  | recorded other => exact plain rfl rfl (hrecord _)
  | settled other =>
    have hcompleted := (tables.record ⟨other, now⟩).holds_updateJobs (·.id == other) (·.completed now) key
      id fun _ => ⟨rfl, rfl⟩
    exact plain rfl rfl (hcompleted.trans (hrecord _))
  | archived job lastError =>
    have hafter : ((tables.insertDeadLetter (letterOf job lastError now)).2.deleteJob job.id).2.Holds key id ↔
        tables.Holds key id ∧ job.id ≠ id := by
      unfold Tables.Holds
      rw [Tables.deleteJob_job?]
      by_cases hid : id = job.id
      · simp [hid]
      · simp [hid, Ne.symm hid, Tables.insertDeadLetter, Tables.job?]
    simp [hafter, Operation.archived?, Operation.keyed?]

/-- A key that a job comes with is held by nobody then. -/
theorem Change.key_free (h : Change now tables operation reply after) (ho : tables.Ordered)
    (hkeyed : operation.keyed? reply = some (key, id)) (other : Int) : ¬tables.Holds key other := by
  intro hholds
  cases h with
  | failed _ error => rw [keyed?_error] at hkeyed; cases hkeyed
  | looked _ _ hlooks => rw [keyed?_of_looks hlooks] at hkeyed; cases hkeyed
  | enqueued job attempts free =>
    have hkey : job.idempotencyKey = some key := by
      cases hanswer : (Row.fresh job attempts now (tables.lastJobId + 1)).answer with
      | error e =>
        rw [hanswer] at hkeyed
        cases hkeyed
      | ok created =>
        rw [hanswer] at hkeyed
        obtain ⟨k, hk, hpair⟩ := Option.map_eq_some_iff.mp hkeyed
        rw [hk, (Prod.mk.inj hpair).1]
    rw [hkey, Bool.eq_false_iff] at free
    exact free ((Tables.keyTaken_iff ho).mpr ⟨other, hholds⟩)
  | _ => cases hkeyed

end Change

/-! ## Along a run -/

/-- A job has been put in with a key, under an id, and has not been archived since. -/
def Scheduled (history : List Exchange) (key : String) (id : Int) : Prop :=
  ∃ earlier e later, history = earlier ++ e :: later ∧ e.keyed? = some (key, id) ∧
    ∀ c ∈ later, c.archives id = false

theorem Scheduled.snoc {history : List Exchange} {e : Exchange} {key : String} {id : Int}
    (h : Scheduled history key id) (hkept : e.archives id = false) : Scheduled (history ++ [e]) key id := by
  obtain ⟨earlier, c, later, rfl, hkeyed, hlater⟩ := h
  exact ⟨earlier, c, later ++ [e], by simp, hkeyed, Run.forall_mem_snoc hlater hkept⟩

/-- What is scheduled behind an exchange was so before it and is not archived in it, or comes in it. -/
theorem scheduled_snoc {history : List Exchange} {e : Exchange} {key : String} {id : Int} :
    Scheduled (history ++ [e]) key id ↔
      (Scheduled history key id ∧ e.archives id = false) ∨ e.keyed? = some (key, id) := by
  constructor
  · rintro ⟨earlier, c, later, hsplit, hkeyed, hlater⟩
    rcases List.eq_nil_or_concat later with rfl | ⟨between, last, rfl⟩
    · obtain ⟨-, hlast⟩ := List.append_inj' hsplit rfl
      cases hlast
      exact Or.inr hkeyed
    · rw [List.concat_eq_append, ← List.cons_append, ← List.append_assoc] at hsplit
      obtain ⟨rfl, hlast⟩ := List.append_inj' hsplit rfl
      cases hlast
      exact Or.inl ⟨⟨earlier, c, between, rfl, hkeyed, fun d hd => hlater d (by simp [hd])⟩,
        hlater e (by simp)⟩
  · rintro (⟨hold, hkept⟩ | hkeyed)
    · exact hold.snoc hkept
    · exact ⟨history, e, [], rfl, hkeyed, fun _ hc => (List.not_mem_nil hc).elim⟩

/-- The rows hold the keys that the history says, and no key is held twice. -/
structure Keyed (history : List Exchange) (tables : Tables) : Prop where
  ordered : tables.Ordered
  migrated : tables.migrated = 3
  held : ∀ key id, tables.Holds key id ↔ Scheduled history key id
  apart : ∀ key id other, tables.Holds key id → tables.Holds key other → id = other

theorem Keyed.start : Keyed [] Tables.empty where
  ordered := Tables.empty_ordered
  migrated := rfl
  held _ _ := iff_of_false (fun ⟨_, hrow, _⟩ => nomatch hrow) fun ⟨_, _, _, hsplit, _⟩ => by simp at hsplit
  apart _ _ _ := fun ⟨_, hrow, _⟩ => nomatch hrow

theorem Keyed.next {history : List Exchange} {e : Exchange} (h : Keyed history e.before)
    (hfits : e.act.operation.fits = true) : Keyed (history ++ [e]) e.after := by
  have hholds := e.change.holds h.ordered hfits
  refine ⟨e.change.ordered h.ordered, e.change.migrated.trans h.migrated, fun key id => ?_,
    fun key id other hid hother => ?_⟩
  · rw [hholds, h.held, scheduled_snoc, Exchange.archives, beq_eq_false_iff_ne]
    rfl
  · rcases (hholds key id).mp hid with ⟨hold, -⟩ | hnew <;>
      rcases (hholds key other).mp hother with ⟨hold', -⟩ | hnew'
    · exact h.apart key id other hold hold'
    · exact absurd hold (e.change.key_free h.ordered hnew' id)
    · exact absurd hold' (e.change.key_free h.ordered hnew other)
    · rw [hnew] at hnew'
      cases hnew'
      rfl

theorem keyed_run {requests : List Request} (hfits : ∀ request ∈ requests, request.operation.fits = true) :
    Keyed (Tables.empty.exchanges requests) (Tables.empty.afterAll requests) :=
  @Run.invariant _ _ Tables.after (fun request => request.operation.fits = true) Keyed _ Keyed.start
    (fun _ _ request hfit h => h.next (e := ⟨_, request⟩) hfit) requests hfits

/-- No two rows hold one key. -/
theorem Keyed.nodup {history : List Exchange} {tables : Tables} (h : Keyed history tables) :
    (tables.jobs.filterMap (·.idempotencyKey)).Nodup := by
  refine List.pairwise_filterMap.mpr
    (h.ordered.sorted.imp_of_mem fun {a b} ha hb hlt key hkey other hother => ?_)
  rintro rfl
  have hsame := h.apart key a.id b.id ⟨a, h.ordered.job?_of_mem ha, hkey⟩
    ⟨b, h.ordered.job?_of_mem hb, hother⟩
  omega

/-! ## What a producer is told -/

section Producer

variable {σ : Type} {p : Processor σ} {s : Session} {job : NewJob} {attempts : Int} {now : Instant}

/-- A key that is held keeps the job out. -/
theorem producer_taken (hanswered : Answered s.faults 1) (hjobs : s.tables.has .jobs = true) {key : String}
    (hkey : job.idempotencyKey = some key) (htaken : s.tables.keyTaken (some key) = true) :
    ∃ faults, Producer.enqueue job attempts now p s =
      (.error (.alreadyScheduled key), p, ⟨s.tables, faults⟩) := by
  rw [← hkey] at htaken
  have hrefused : ((Store.enqueue job attempts now).execute s).1 =
      .error (.duplicate (job.idempotencyKey.getD "")) := enqueue_taken hanswered hjobs htaken
  rcases enqueue_cases job attempts now s with ⟨error, after, hcall, hsame⟩ | ⟨hfree, -⟩
  · rw [hcall, hkey] at hrefused
    cases hrefused
    refine ⟨after.faults, ?_⟩
    rw [Producer.enqueue, hcall, ← hsame]
    rfl
  · rw [htaken] at hfree
    cases hfree

/-- A job whose key is not held gets in, and the processor is woken. -/
theorem producer_free (hanswered : Answered s.faults 1) (hjobs : s.tables.has .jobs = true)
    (hcounter : fitsCounter (job.maxAttempts.getD attempts) = true)
    (hfree : s.tables.keyTaken job.idempotencyKey = false) :
    ∃ created, (Row.fresh job attempts now (s.tables.lastJobId + 1)).read? = some created ∧
      Producer.enqueue job attempts now p s = (.ok created, p.notify,
        ⟨(s.tables.insertJob (Row.fresh job attempts now)).2, s.faults.tail⟩) := by
  obtain ⟨created, hread⟩ := Option.isSome_iff_exists.mp
    ((Row.fresh_read?_isSome job attempts now (s.tables.lastJobId + 1)).trans hcounter)
  have hcall := enqueue_eq_ok.mpr
    ⟨((answered_succ s.faults 0).mp hanswered).1, hjobs, hfree, hread, rfl⟩
  exact ⟨created, hread, by rw [Producer.enqueue, hcall]⟩

theorem Keyed.has_jobs {history : List Exchange} {tables : Tables} (h : Keyed history tables) :
    tables.has .jobs = true := by
  rw [Tables.has, h.migrated]
  rfl

/-- A job whose key is held by the history is refused. -/
theorem Keyed.refuses {history : List Exchange} (h : Keyed history s.tables)
    (hanswered : Answered s.faults 1) {key : String} {id : Int} (hkey : job.idempotencyKey = some key)
    (hscheduled : Scheduled history key id) :
    ∃ faults, Producer.enqueue job attempts now p s =
      (.error (.alreadyScheduled key), p, ⟨s.tables, faults⟩) :=
  producer_taken hanswered h.has_jobs hkey
    ((Tables.keyTaken_iff h.ordered).mpr ⟨id, (h.held key id).mpr hscheduled⟩)

/-- A job whose key the history does not hold gets in, and so does one without a key. -/
theorem Keyed.lets_in {history : List Exchange} (h : Keyed history s.tables)
    (hanswered : Answered s.faults 1) (hcounter : fitsCounter (job.maxAttempts.getD attempts) = true)
    (hnone : ∀ key id, job.idempotencyKey = some key → ¬Scheduled history key id) :
    ∃ created, (Row.fresh job attempts now (s.tables.lastJobId + 1)).read? = some created ∧
      Producer.enqueue job attempts now p s =
        (.ok created, p.notify, ⟨(s.tables.insertJob (Row.fresh job attempts now)).2, s.faults.tail⟩) := by
  refine producer_free hanswered h.has_jobs hcounter ?_
  cases hkey : job.idempotencyKey with
  | none => rfl
  | some key =>
    rw [Bool.eq_false_iff]
    intro htaken
    obtain ⟨id, hholds⟩ := (Tables.keyTaken_iff h.ordered).mp htaken
    exact hnone key id hkey ((h.held key id).mp hholds)

/-- **Keys decide.** Behind every run of the store, whatever the database failed in it, a producer that puts
in a job is answered, when the database carries its statement out, as the history says:

* with a key, the job is refused as already scheduled just when some job was put in with the key before
  and has not been archived since, whatever has become of it otherwise;
* a job that is refused leaves the tables as they are and wakes nobody;
* any other job, and every job without a key, gets in: one row is added, pending and with its key, the
  processor is woken, and of all rows that one alone holds the key.

No two live rows hold one key. -/
theorem keys_decide (requests : List Request)
    (hfits : ∀ request ∈ requests, request.operation.fits = true) (job : NewJob) (attempts : Int)
    (hcounter : fitsCounter (job.maxAttempts.getD attempts) = true) (now : Instant) (p : Processor σ)
    (faults : List Bool) (hanswered : Answered faults 1) :
    let history := Tables.empty.exchanges requests
    let tables := Tables.empty.afterAll requests
    let outcome := Producer.enqueue job attempts now p ⟨tables, faults⟩
    (∀ key, job.idempotencyKey = some key →
      (outcome.1 = .error (.alreadyScheduled key) ↔ ∃ id, Scheduled history key id)) ∧
    (∀ key id, job.idempotencyKey = some key → Scheduled history key id →
      outcome.2.1 = p ∧ outcome.2.2.tables = tables) ∧
    ((∀ key id, job.idempotencyKey = some key → ¬Scheduled history key id) →
      ∃ created row, outcome.1 = .ok created ∧ outcome.2.1 = p.notify ∧
        outcome.2.2.tables = { tables with jobs := tables.jobs ++ [row], lastJobId := row.id } ∧
        row.read? = some created ∧ row.hasStatus .pending = true ∧
        row.idempotencyKey = job.idempotencyKey ∧
        ∀ key, job.idempotencyKey = some key →
          ∀ id, outcome.2.2.tables.Holds key id ↔ id = created.id) ∧
    (tables.jobs.filterMap (·.idempotencyKey)).Nodup := by
  intro history tables outcome
  have hkeyed : Keyed history tables := keyed_run hfits
  have hrefused : ∀ key id, job.idempotencyKey = some key → Scheduled history key id →
      ∃ left, outcome = (.error (.alreadyScheduled key), p, ⟨tables, left⟩) :=
    fun key id hkey hscheduled => hkeyed.refuses (s := ⟨tables, faults⟩) hanswered hkey hscheduled
  have hgetsIn : (∀ key id, job.idempotencyKey = some key → ¬Scheduled history key id) →
      ∃ created, (Row.fresh job attempts now (tables.lastJobId + 1)).read? = some created ∧
        outcome = (.ok created, p.notify,
          ⟨(tables.insertJob (Row.fresh job attempts now)).2, faults.tail⟩) :=
    fun hnone => hkeyed.lets_in (s := ⟨tables, faults⟩) hanswered hcounter hnone
  refine ⟨fun key hkey => ⟨fun hanswer => ?_, fun hexists => ?_⟩,
    fun key id hkey hscheduled => ?_, fun hnone => ?_, hkeyed.nodup⟩
  · by_contra hnever
    obtain ⟨created, -, houtcome⟩ := hgetsIn fun other id hother hid => by
      rw [hkey] at hother
      cases hother
      exact hnever ⟨id, hid⟩
    rw [houtcome] at hanswer
    cases hanswer
  · obtain ⟨id, hscheduled⟩ := hexists
    obtain ⟨left, houtcome⟩ := hrefused key id hkey hscheduled
    rw [houtcome]
  · obtain ⟨left, houtcome⟩ := hrefused key id hkey hscheduled
    rw [houtcome]
    exact ⟨rfl, rfl⟩
  · obtain ⟨created, hread, houtcome⟩ := hgetsIn hnone
    have hid : created.id = tables.lastJobId + 1 := (Row.read?_spec hread).1
    rw [houtcome]
    refine ⟨created, Row.fresh job attempts now (tables.lastJobId + 1), rfl, rfl, rfl, hread,
      beq_self_eq_true _, rfl, fun key hkey id => ?_⟩
    rw [hkeyed.ordered.holds_insertJob, hkeyed.held, hid]
    exact ⟨fun h => (h.resolve_left (hnone key id hkey)).2, fun h => Or.inr ⟨hkey, h⟩⟩

end Producer

/-- A job with the empty key. -/
def emptyKey : NewJob := ⟨"a", [], none, some "", none, none⟩

/-- It is put in, cancelled and yet completed, and archived; the dead letter is made a job again, which has
no key. -/
def closedAndShelved : List Request :=
  let ask (second : Nat) (operation : Operation) : Request := ⟨operation, wholeSecond second, []⟩
  let known : Job :=
    { id := 1, tenantId := none, jobType := "a", payload := [], status := .completed,
      idempotencyKey := some "", attemptCount := 0, maxAttempts := 5, lastError := none,
      runAt := wholeSecond 0, startedAt := none, completedAt := none,
      createdAt := wholeSecond 0, updatedAt := wholeSecond 0 }
  [ask 0 (.enqueue emptyKey standardMaxAttempts), ask 1 (.cancel 1), ask 2 (.markCompleted 1),
   ask 3 (.archive known "bad"), ask 4 (.restore 1 5)]

/-- What a producer is told that puts such a job in behind the first few requests. -/
def putBehind (n : Nat) : Except ProducerError Job × Processor Unit × Session :=
  Producer.enqueue emptyKey standardMaxAttempts (wholeSecond 9)
    (Processor.create ProcessorConfig.standard Registry.empty .standard ())
    ⟨Tables.empty.afterAll (closedAndShelved.take n), []⟩

theorem keys_decide_closedAndShelved :
    Scheduled (Tables.empty.exchanges (closedAndShelved.take 3)) "" 1 ∧
    (putBehind 3).1 = .error (.alreadyScheduled "") ∧
    (putBehind 3).2.1.wakeUp = false ∧
    (putBehind 3).2.2.tables = Tables.empty.afterAll (closedAndShelved.take 3) ∧
    (∀ id, ¬Scheduled (Tables.empty.exchanges (closedAndShelved.take 5)) "" id) ∧
    (∃ created, (putBehind 5).1 = .ok created) ∧
    (putBehind 5).2.1.wakeUp = true ∧
    ((putBehind 5).2.2.tables.jobs.map fun row => (row.id, row.idempotencyKey)) =
      [(2, none), (3, some "")] := by
  have hanswered : Answered [] 1 := fun _ _ => rfl
  obtain ⟨hrefused, hsame, -⟩ := keys_decide (closedAndShelved.take 3) (by decide) emptyKey
    standardMaxAttempts (by decide) (wholeSecond 9)
    (Processor.create ProcessorConfig.standard Registry.empty .standard ()) [] hanswered
  obtain ⟨hfree, -, hgetsIn, -⟩ := keys_decide (closedAndShelved.take 5) (by decide) emptyKey
    standardMaxAttempts (by decide) (wholeSecond 9)
    (Processor.create ProcessorConfig.standard Registry.empty .standard ()) [] hanswered
  have hscheduled : Scheduled (Tables.empty.exchanges (closedAndShelved.take 3)) "" 1 :=
    ⟨[], _, _, rfl, by decide +kernel, by decide +kernel⟩
  have hnone : ∀ id, ¬Scheduled (Tables.empty.exchanges (closedAndShelved.take 5)) "" id := by
    intro id hid
    have hin : (putBehind 5).1.isOk = true := by decide +kernel
    have hout : (putBehind 5).1 = _ := (hfree "" rfl).mpr ⟨id, hid⟩
    rw [hout] at hin
    cases hin
  obtain ⟨hprocessor, htables⟩ := hsame "" 1 rfl hscheduled
  obtain ⟨created, -, hcreated, hwoken, -⟩ := hgetsIn fun key id hkey => by
    cases hkey
    exact hnone id
  exact ⟨hscheduled, (hrefused "" rfl).mpr ⟨1, hscheduled⟩, congrArg (·.wakeUp) hprocessor, htables, hnone,
    ⟨created, hcreated⟩, congrArg (·.wakeUp) hwoken, by decide +kernel⟩

end DurableJobs.Store
