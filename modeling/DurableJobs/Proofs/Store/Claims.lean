import DurableJobs.Proofs.Store.Rows

/-!
# Claims of one job

The store is the only thing that keeps two workers from one job, and `attempt_count` is its fence: a
claim and a pass of the reaper raise it, nothing else touches it. So a row's count is the number of
times it has been taken (`taken`), a job is claimed again only after its row has been put back to
pending, and the later claim sees the greater count. All of it holds in every run, whoever asks for what
in whatever order.
-/

set_option autoImplicit false

namespace DurableJobs.Store

namespace Exchange

/-- The row of an id is another one afterwards, or gone. -/
def changes (e : Exchange) (id : Int) : Bool := e.before.job? id != e.after.job? id

/-- A claim that takes the row of an id, whether or not the row can be read. -/
def claims (e : Exchange) (id : Int) : Bool := e.act.operation == .claimNext && e.changes id

/-- A pass over stuck jobs that changes the row of an id. -/
def takesBack (e : Exchange) (id : Int) : Bool :=
  (match e.act.operation with
   | .reclaimStuck _ => true
   | _ => false) && e.changes id

/-- A claim that answers a job. -/
def Returns (e : Exchange) (job : Job) : Prop :=
  e.act.operation = .claimNext ∧ e.reply = .ok (.claimed (some job))

/-- The row of an id was not pending, and a failure or a pass over stuck jobs makes it so. -/
def Reopens (e : Exchange) (id : Int) : Prop :=
  ((∃ error retryAt, e.act.operation = .markFailed id error retryAt) ∨
    ∃ olderThan, e.act.operation = .reclaimStuck olderThan) ∧
  (∃ row, e.before.job? id = some row ∧ row.hasStatus .pending = false) ∧
  ∃ row, e.after.job? id = some row ∧ row.hasStatus .pending = true

/-- By how much an exchange raises the count of an id. -/
def raises (e : Exchange) (id : Int) : Nat := (e.claims id).toNat + (e.takesBack id).toNat

end Exchange

/-! ## What an exchange does to the count of a row -/

section Step

variable {e : Exchange} {id : Int}

theorem Exchange.fate (e : Exchange) (ho : e.before.Ordered) (id : Int) :
    Fate e.act.now e.before.lastJobId id e.act.operation e.reply (e.before.job? id)
      (e.after.job? id) :=
  e.change.fate ho id

theorem raises_of_kept (h : e.before.job? id = e.after.job? id) : e.raises id = 0 := by
  simp [Exchange.raises, Exchange.claims, Exchange.takesBack, Exchange.changes, h]

theorem Row.claimed_ne (row : Row) (now : Instant) : row ≠ row.claimed now := by
  intro h
  have hcount := congrArg Row.attemptCount h
  simp only [Row.claimed] at hcount
  omega

theorem Row.reclaimed_ne (row : Row) (now : Instant) : row ≠ row.reclaimed now := by
  intro h
  have hcount := congrArg Row.attemptCount h
  simp only [Row.reclaimed] at hcount
  omega

/-- Only claims and passes over stuck jobs raise a count. -/
theorem raises_of_other (hclaim : e.act.operation ≠ .claimNext)
    (hpass : ∀ olderThan, e.act.operation ≠ .reclaimStuck olderThan) : e.raises id = 0 := by
  have htakes : e.takesBack id = false := by
    unfold Exchange.takesBack
    split
    · next olderThan h => exact absurd h (hpass olderThan)
    · rfl
  simp [Exchange.raises, Exchange.claims, htakes, hclaim]

theorem raises_of_claim (hclaim : e.act.operation = .claimNext) (hchanges : e.changes id = true) :
    e.raises id = 1 := by
  simp [Exchange.raises, Exchange.claims, Exchange.takesBack, hclaim, hchanges]

theorem raises_of_pass {olderThan : Int} (hpass : e.act.operation = .reclaimStuck olderThan)
    (hchanges : e.changes id = true) : e.raises id = 1 := by
  have hclaim : (Operation.reclaimStuck olderThan == .claimNext) = false := by
    rw [beq_eq_false_iff_ne]
    exact nofun
  simp [Exchange.raises, Exchange.claims, Exchange.takesBack, hpass, hclaim, hchanges]

theorem changes_of_ne {row row' : Row} (hbefore : e.before.job? id = some row)
    (hafter : e.after.job? id = some row') (hne : row ≠ row') : e.changes id = true := by
  simp [Exchange.changes, hbefore, hafter, hne]

/-- A row that is there behind an exchange has been there before, with a count that was smaller by what
the exchange raises it, or it is new and has not been tried. -/
theorem attempts_step (ho : e.before.Ordered) {row' : Row} (hafter : e.after.job? id = some row') :
    (∃ row, e.before.job? id = some row ∧ row'.attemptCount = row.attemptCount + e.raises id) ∨
      (id = e.before.lastJobId + 1 ∧ row'.attemptCount = 0 ∧ e.raises id = 0) := by
  have hfate := e.fate ho id
  rw [hafter] at hfate
  generalize hbefore : e.before.job? id = row? at hfate
  generalize hop : e.act.operation = operation at hfate
  generalize e.reply = reply at hfate
  cases hfate with
  | kept =>
    refine Or.inl ⟨row', rfl, ?_⟩
    rw [raises_of_kept (hbefore.trans hafter.symm)]
    simp
  | created _ _ job attempts hinserts hnew =>
    refine Or.inr ⟨hnew, rfl, raises_of_other ?_ fun olderThan => ?_⟩
    all_goals
      intro h
      rw [← hop, h] at hinserts
      cases hinserts
  | claimed row =>
    refine Or.inl ⟨row, rfl, ?_⟩
    rw [raises_of_claim hop (changes_of_ne hbefore hafter (row.claimed_ne _))]
    rfl
  | reclaimed row olderThan =>
    refine Or.inl ⟨row, rfl, ?_⟩
    rw [raises_of_pass hop (changes_of_ne hbefore hafter (row.reclaimed_ne _))]
    rfl
  | completed row _ hnames =>
    refine Or.inl ⟨row, rfl, ?_⟩
    rw [raises_of_other] <;> rcases hnames with rfl | rfl <;> simp [hop, Row.completed]
  | rescheduled row =>
    refine Or.inl ⟨row, rfl, ?_⟩
    rw [raises_of_other] <;> simp [hop, Row.rescheduled]
  | buried row =>
    refine Or.inl ⟨row, rfl, ?_⟩
    rw [raises_of_other] <;> simp [hop, Row.dead]
  | cancelled row =>
    refine Or.inl ⟨row, rfl, ?_⟩
    rw [raises_of_other] <;> simp [hop, Row.cancelled]

/-- An id that has not been handed out is not taken. -/
theorem raises_of_fresh (ho : e.before.Ordered) (hid : e.before.lastJobId < id) : e.raises id = 0 := by
  cases hafter : e.after.job? id with
  | none => exact raises_of_kept ((ho.job?_of_fresh hid).trans hafter.symm)
  | some row' =>
    rcases attempts_step ho hafter with ⟨row, hrow, -⟩ | ⟨-, -, hraises⟩
    · rw [ho.job?_of_fresh hid] at hrow
      cases hrow
    · exact hraises

/-- A claim that answers a job has met its row, pending, and has counted itself. -/
theorem returns_spec (ho : e.before.Ordered) {job : Job} (h : e.Returns job) :
    ∃ row, e.before.job? job.id = some row ∧ row.hasStatus .pending = true ∧
      e.after.job? job.id = some (row.claimed e.act.now) ∧ job.attemptCount = row.attemptCount + 1 := by
  have hchange := e.change
  rw [h.1, h.2] at hchange
  exact hchange.claimed_spec ho

end Step

/-! ## Counting along a run -/

/-- How often the row of an id was taken: by claims, and by passes over stuck jobs. -/
def taken (history : List Exchange) (id : Int) : Nat :=
  history.countP (·.claims id) + history.countP (·.takesBack id)

theorem taken_snoc (history : List Exchange) (e : Exchange) (id : Int) :
    taken (history ++ [e]) id = taken history id + e.raises id := by
  simp only [taken, Exchange.raises, List.countP_append, List.countP_singleton]
  cases e.claims id <;> cases e.takesBack id <;> simp <;> omega

/-- Every row counts how often it was taken, and what has not been handed out was never taken. -/
structure Counted (history : List Exchange) (tables : Tables) : Prop where
  ordered : tables.Ordered
  counts : ∀ id row, tables.job? id = some row → row.attemptCount = taken history id
  untouched : ∀ id, tables.lastJobId < id → taken history id = 0

theorem Counted.start : Counted [] Tables.empty where
  ordered := Tables.empty_ordered
  counts _ _ h := nomatch h
  untouched _ _ := rfl

theorem Counted.next {history : List Exchange} {tables : Tables} (h : Counted history tables)
    (request : Request) : Counted (history ++ [⟨tables, request⟩]) (tables.after request) := by
  obtain ⟨ho, hcounts, huntouched⟩ := h
  let e : Exchange := ⟨tables, request⟩
  refine ⟨e.change.ordered ho, fun id row' hafter => ?_, fun id hid => ?_⟩
  · rw [taken_snoc]
    rcases attempts_step (e := e) ho hafter with ⟨row, hrow, hcount⟩ | ⟨hnew, hzero, hraises⟩
    · rw [hcount, hcounts id row hrow]
      exact (Int.natCast_add _ _).symm
    · have hfresh : e.before.lastJobId < id := by omega
      rw [hzero, hraises, huntouched id hfresh]
      rfl
  · have hlast : e.before.lastJobId < id := Int.lt_of_le_of_lt e.change.lastJobId_le hid
    rw [taken_snoc, huntouched id hlast, raises_of_fresh ho hlast]

theorem counted_run (requests : List Request) :
    Counted (Tables.empty.exchanges requests) (Tables.empty.afterAll requests) :=
  Run.invariant Counted.start (fun _ _ request _ h => h.next request) requests fun _ _ => trivial

/-! ## Between two claims -/

/-- What is true of a job from a claim of it on: its row counts at least as much as the claim did, and
it is pending only if something has put it back. -/
structure Fenced (id count : Int) (history : List Exchange) (tables : Tables) : Prop where
  ordered : tables.Ordered
  handedOut : id ≤ tables.lastJobId
  counts : ∀ row, tables.job? id = some row → count ≤ row.attemptCount
  closed : (∃ e ∈ history, e.Reopens id) ∨
    ∀ row, tables.job? id = some row → row.hasStatus .pending = false

/-- A row that is not pending becomes pending by being put back. -/
theorem reopens_of_pending {e : Exchange} (ho : e.before.Ordered) {id : Int}
    (hid : id ≤ e.before.lastJobId)
    (hclosed : ∀ row, e.before.job? id = some row → row.hasStatus .pending = false) {row' : Row}
    (hafter : e.after.job? id = some row') (hpending : row'.hasStatus .pending = true) :
    e.Reopens id := by
  have hfate := e.fate ho id
  rw [hafter] at hfate
  generalize hbefore : e.before.job? id = row? at hfate hclosed
  generalize hop : e.act.operation = operation at hfate
  generalize e.reply = reply at hfate
  cases hfate with
  | kept =>
    have := hclosed row' rfl
    rw [hpending] at this
    cases this
  | created _ _ _ _ _ hnew => omega
  | claimed row =>
    cases Row.hasStatus_unique hpending (beq_self_eq_true Status.processing.name)
  | completed row =>
    cases Row.hasStatus_unique hpending (beq_self_eq_true Status.completed.name)
  | rescheduled row error retryAt =>
    exact ⟨Or.inl ⟨error, retryAt, hop⟩, ⟨row, hbefore, hclosed row rfl⟩, _, hafter, hpending⟩
  | buried row =>
    cases Row.hasStatus_unique hpending (beq_self_eq_true Status.failed.name)
  | reclaimed row olderThan =>
    exact ⟨Or.inr ⟨olderThan, hop⟩, ⟨row, hbefore, hclosed row rfl⟩, _, hafter, hpending⟩
  | cancelled row =>
    cases Row.hasStatus_unique hpending (beq_self_eq_true Status.cancelled.name)

theorem Fenced.next {id count : Int} {history : List Exchange} {tables : Tables}
    (h : Fenced id count history tables) (request : Request) :
    Fenced id count (history ++ [⟨tables, request⟩]) (tables.after request) := by
  obtain ⟨ho, hid, hcounts, hclosed⟩ := h
  let e : Exchange := ⟨tables, request⟩
  refine ⟨e.change.ordered ho, Int.le_trans hid e.change.lastJobId_le, fun row' hafter => ?_, ?_⟩
  · rcases attempts_step (e := e) ho hafter with ⟨row, hrow, hcount⟩ | ⟨hnew, -, -⟩
    · have := hcounts row hrow
      omega
    · have : e.before.lastJobId = tables.lastJobId := rfl
      omega
  · rcases hclosed with ⟨e', he', hreopens⟩ | hclosed
    · exact Or.inl ⟨e', List.mem_append_left _ he', hreopens⟩
    · by_cases hopen : ∃ row', e.after.job? id = some row' ∧ row'.hasStatus .pending = true
      · obtain ⟨row', hafter, hpending⟩ := hopen
        exact Or.inl ⟨e, by simp [e], reopens_of_pending ho hid hclosed hafter hpending⟩
      · refine Or.inr fun row' hafter => ?_
        rw [← Bool.not_eq_true]
        exact fun hpending => hopen ⟨row', hafter, hpending⟩

theorem Fenced.start {e : Exchange} (ho : e.before.Ordered) {job : Job} (h : e.Returns job) :
    Fenced job.id job.attemptCount [] e.after := by
  obtain ⟨row, hbefore, -, hafter, hcount⟩ := returns_spec ho h
  obtain ⟨hmem, hid⟩ := Tables.mem_of_job? hbefore
  refine ⟨e.change.ordered ho, ?_, fun row' hrow' => ?_, Or.inr fun row' hrow' => ?_⟩
  · exact Int.le_trans (hid ▸ ho.handedOut row hmem) e.change.lastJobId_le
  · cases hafter.symm.trans hrow'
    exact Int.le_of_eq hcount
  · cases hafter.symm.trans hrow'
    exact beq_eq_false_iff_ne.mpr (show Status.processing.name ≠ Status.pending.name by decide)

/-- **Claims of one job.** In every run of the store the count of a live row is the number of claims
that took it plus the number of passes over stuck jobs that changed it; and of two claims that answer
the same job the later one answers a greater count, its row having been put back to pending in between.
-/
theorem claims_of_one_job (requests : List Request) :
    (∀ row ∈ (Tables.empty.afterAll requests).jobs,
      row.attemptCount = (Tables.empty.exchanges requests).countP (·.claims row.id) +
        (Tables.empty.exchanges requests).countP (·.takesBack row.id)) ∧
    ∀ (earlier between later : List Exchange) (first second : Exchange),
      Tables.empty.exchanges requests = earlier ++ first :: between ++ second :: later →
      ∀ a b : Job, first.Returns a → second.Returns b → a.id = b.id →
        (∃ e ∈ between, e.Reopens a.id) ∧ a.attemptCount < b.attemptCount := by
  refine ⟨fun row hrow => ?_, fun earlier between later first second hsplit a b ha hb hid => ?_⟩
  · have hall := counted_run requests
    exact hall.counts row.id row (hall.ordered.job?_of_mem hrow)
  -- cut the run at the second claim and then at the first one: what lies between is a run of its own,
  -- which starts behind the first claim
  · obtain ⟨upTo, -, -, hupTo, hsecond, -⟩ := Run.history_split hsplit
    obtain ⟨before, mid, rfl, -, hfirst, rfl⟩ := Run.history_split hupTo.symm
    have hordered : first.before.Ordered := hfirst ▸ (counted_run before).ordered
    have hfenced : Fenced a.id a.attemptCount (first.after.exchanges mid) (first.after.afterAll mid) :=
      Run.invariant (Fenced.start hordered ha) (fun _ _ request _ h => h.next request) mid
        fun _ _ => trivial
    rw [Run.final_append, Run.final_cons, ← hfirst] at hsecond
    change second.before = first.after.afterAll mid at hsecond
    rw [← hsecond] at hfenced
    obtain ⟨row, hlookup, hpending, -, hcount⟩ := returns_spec hfenced.ordered hb
    rw [← hid] at hlookup
    refine ⟨hfenced.closed.resolve_right fun hclosed => ?_, ?_⟩
    · rw [hclosed row hlookup] at hpending
      cases hpending
    · have := hfenced.counts row hlookup
      omega

/-- A job is claimed, put off by a failure and claimed again. -/
def retried : List Request :=
  [⟨.enqueue ⟨"a", [], none, none, none, none⟩ standardMaxAttempts, wholeSecond 0, []⟩,
   ⟨.claimNext, wholeSecond 0, []⟩,
   ⟨.markFailed 1 "busy" (wholeSecond 1), wholeSecond 0, []⟩,
   ⟨.claimNext, wholeSecond 1, []⟩]

theorem claims_of_one_job_retried :
    ∃ (enqueued first failure second : Exchange) (a b : Job),
      Tables.empty.exchanges retried = [enqueued, first, failure, second] ∧
      first.Returns a ∧ second.Returns b ∧ a.id = b.id ∧
      (∃ e ∈ [failure], e.Reopens a.id) ∧ a.attemptCount < b.attemptCount := by
  let a : Job :=
    { id := 1, tenantId := none, jobType := "a", payload := [], status := .processing,
      idempotencyKey := none, attemptCount := 1, maxAttempts := 5, lastError := none,
      runAt := wholeSecond 0, startedAt := some (wholeSecond 0), completedAt := none,
      createdAt := wholeSecond 0, updatedAt := wholeSecond 0 }
  let b : Job :=
    { a with
      attemptCount := 2, lastError := some "busy", runAt := wholeSecond 1,
      startedAt := some (wholeSecond 1), updatedAt := wholeSecond 1 }
  refine ⟨_, _, _, _, a, b, rfl, ⟨rfl, by decide⟩, ⟨rfl, by decide⟩, rfl, ?_⟩
  exact (claims_of_one_job retried).2 [_] [_] [] _ _ rfl a b ⟨rfl, by decide⟩ ⟨rfl, by decide⟩ rfl

end DurableJobs.Store
