import DurableJobs.Proofs.Store.Claims
import DurableJobs.Proofs.Store.Verdicts

/-!
# What the columns of a row say

Ten operations write to a row, each to some of its columns and most of them whatever its status is. The
columns agree all the same: the status is one of five, the times come in the order in which things
happened, and which columns are set says what was done with the job.

`Columns` puts this down for one row, with what the history knows of its job as two truth values. Each
write keeps it, and the times are in order because the clock does not go back: the last one that a row
has seen is its `updatedAt`, which was the clock of an exchange (`Kept.stamped`).
-/

set_option autoImplicit false

namespace DurableJobs

/-- `a` is not later than `b`. -/
def Instant.AtMost (a b : Instant) : Prop := b.before a = false

namespace Instant

instance (a b : Instant) : Decidable (a.AtMost b) := inferInstanceAs (Decidable (_ = _))

theorem atMost_iff {a b : Instant} :
    a.AtMost b ↔ a.seconds < b.seconds ∨ a.seconds = b.seconds ∧ a.nanos ≤ b.nanos := by
  unfold AtMost before
  rw [Bool.eq_false_iff]
  simp only [ne_eq, Bool.or_eq_true, Bool.and_eq_true, decide_eq_true_eq, beq_iff_eq]
  omega

theorem AtMost.refl (a : Instant) : a.AtMost a := atMost_iff.mpr (Or.inr ⟨rfl, Nat.le_refl _⟩)

theorem AtMost.trans {a b c : Instant} (hab : a.AtMost b) (hbc : b.AtMost c) : a.AtMost c := by
  rw [atMost_iff] at hab hbc ⊢
  omega

end Instant

namespace Store

/-! ## Columns of a row -/

/-- What the columns of a row say, with whether its job was ever claimed and whether it was ever put off
or given up. -/
structure Columns (row : Row) (claimed failed : Bool) : Prop where
  status : row.status ∈ Status.all.map Status.name
  created : row.createdAt.AtMost row.updatedAt
  counted : 0 ≤ row.attemptCount
  untried : row.attemptCount = 0 ↔ row.startedAt = none
  started : row.startedAt.isSome = claimed
  begun : ∀ start ∈ row.startedAt, start.AtMost row.updatedAt
  processing : row.hasStatus .processing = true → row.startedAt.isSome = true
  closed : ∀ status ∈ closedStatuses, row.hasStatus status = true → row.completedAt = some row.updatedAt
  failed : row.lastError.isSome = failed

namespace Columns

variable {row : Row} {claimed failed : Bool} {now : Instant}

theorem name_mem (status : Status) : status.name ∈ Status.all.map Status.name := by
  cases status <;> decide

/-- A row with an open status is not closed. -/
theorem not_closed (status : Status) {other : Status} (hrow : row.status = status.name)
    (hopen : status ∉ closedStatuses) (hother : other ∈ closedStatuses) :
    ¬row.hasStatus other = true := by
  intro h
  cases hasStatus_of_status hrow h
  exact hopen hother

theorem not_processing (status : Status) (hrow : row.status = status.name)
    (hother : status ≠ .processing) : ¬row.hasStatus .processing = true :=
  fun h => hother (hasStatus_of_status hrow h)

theorem of_fresh (job : NewJob) (attempts id : Int) (now : Instant) :
    Columns (Row.fresh job attempts now id) false false where
  status := name_mem .pending
  created := .refl now
  counted := Int.le_refl 0
  untried := ⟨fun _ => rfl, fun _ => rfl⟩
  started := rfl
  begun _ h := nomatch h
  processing h := absurd h (not_processing .pending rfl nofun)
  closed _ hclosed h := absurd h (not_closed .pending rfl (by decide) hclosed)
  failed := rfl

theorem claim (h : Columns row claimed failed) (hnow : row.updatedAt.AtMost now) :
    Columns (row.claimed now) true failed where
  status := name_mem .processing
  created := h.created.trans hnow
  counted := Int.add_nonneg h.counted (by decide)
  untried := by
    have hcounted := h.counted
    refine iff_of_false ?_ nofun
    change ¬row.attemptCount + 1 = 0
    omega
  started := rfl
  begun start hstart := by
    cases hstart
    exact .refl now
  processing _ := rfl
  closed _ hclosed h := absurd h (not_closed .processing rfl (by decide) hclosed)
  failed := h.failed

/-- Closing a row sets the time of its end. -/
theorem close (h : Columns row claimed failed) (hnow : row.updatedAt.AtMost now) (status : Status)
    (hclosed : status ∈ closedStatuses) (lastError : Option String) :
    Columns { row with status := status.name, lastError, completedAt := some now, updatedAt := now }
      claimed lastError.isSome where
  status := name_mem status
  created := h.created.trans hnow
  counted := h.counted
  untried := h.untried
  started := h.started
  begun start hstart := (h.begun start hstart).trans hnow
  processing := by
    intro hprocessing
    cases hasStatus_of_status rfl hprocessing
    exact absurd hclosed (by decide)
  closed _ _ _ := rfl
  failed := rfl

/-- Back to pending. -/
theorem reopen (h : Columns row claimed failed) (hnow : row.updatedAt.AtMost now)
    (lastError : Option String) (runAt : Instant) :
    Columns { row with status := Status.pending.name, lastError, runAt, updatedAt := now }
      claimed lastError.isSome where
  status := name_mem .pending
  created := h.created.trans hnow
  counted := h.counted
  untried := h.untried
  started := h.started
  begun start hstart := (h.begun start hstart).trans hnow
  processing h := absurd h (not_processing .pending rfl nofun)
  closed _ hclosed h := absurd h (not_closed .pending rfl (by decide) hclosed)
  failed := rfl

theorem reclaim (h : Columns row claimed failed) (hnow : row.updatedAt.AtMost now)
    (hstuck : row.hasStatus .processing = true) : Columns (row.reclaimed now) claimed failed where
  status := name_mem .pending
  created := h.created.trans hnow
  counted := Int.add_nonneg h.counted (by decide)
  untried := by
    -- a row that is processing has been started, so neither side holds
    have hcounted := h.counted
    have hstarted := h.processing hstuck
    refine iff_of_false ?_ fun hnone => ?_
    · change ¬row.attemptCount + 1 = 0
      omega
    · change row.startedAt = none at hnone
      rw [hnone] at hstarted
      cases hstarted
  started := h.started
  begun start hstart := (h.begun start hstart).trans hnow
  processing h := absurd h (not_processing .pending rfl nofun)
  closed _ hclosed h := absurd h (not_closed .pending rfl (by decide) hclosed)
  failed := h.failed

end Columns

/-! ## Along a run -/

namespace Exchange

/-- The job of an id is put off or given up, with an error for its row. -/
def reports (e : Exchange) (id : Int) : Bool :=
  match e.act.operation, e.reply with
  | .markFailed other _ _, .ok _ | .markDead other _, .ok _ => other == id
  | _, _ => false

end Exchange

section Step

variable {e : Exchange} {id : Int}

/-- A report is a write of an error to a row that is there. -/
theorem reports_spec (h : e.reports id = true) :
    ∃ change : Row → Row, (∀ row, (change row).id = row.id ∧ (change row).lastError.isSome = true) ∧
      (e.before.job? id).isSome = true ∧ e.after = (e.before.updateJobs (·.id == id) change).2 := by
  have hchange := e.change
  unfold Exchange.reports at h
  generalize e.act.operation = operation at h hchange
  generalize e.reply = reply at h hchange
  generalize e.after = after at hchange
  cases hchange with
  | rescheduled other error retryAt live =>
    cases beq_iff_eq.mp h
    exact ⟨(·.rescheduled error retryAt _), fun _ => ⟨rfl, rfl⟩, live, rfl⟩
  | buried other error live =>
    cases beq_iff_eq.mp h
    exact ⟨(·.dead error _), fun _ => ⟨rfl, rfl⟩, live, rfl⟩
  | failed => cases operation <;> cases h
  | looked _ _ hlooks => cases operation <;> first | cases h | cases hlooks
  | _ => cases h

/-- What is reported of a job stands in its row. -/
theorem lastError_of_reports (h : e.reports id = true) {row : Row} (hafter : e.after.job? id = some row) :
    row.lastError.isSome = true := by
  obtain ⟨change, hchange, live, hwrite⟩ := reports_spec h
  obtain ⟨old, hold⟩ := Option.isSome_iff_exists.mp live
  rw [hwrite, e.before.updateJobs_job? _ change id fun row => (hchange row).1, hold, Option.map_some,
    if_pos (beq_iff_eq.mpr (Tables.mem_of_job? hold).2)] at hafter
  cases hafter
  exact (hchange old).2

/-- Only rows that are there can be reported on. -/
theorem reports_of_none (hnone : e.before.job? id = none) : e.reports id = false := by
  refine Bool.eq_false_iff.mpr fun h => ?_
  obtain ⟨_, -, live, -⟩ := reports_spec h
  rw [hnone] at live
  cases live

theorem claims_of_kept (h : e.before.job? id = e.after.job? id) : e.claims id = false := by
  simp [Exchange.claims, Exchange.changes, h]

/-- The columns of a row behind an exchange say what the exchange adds to its history, and the row is as
it was or stamped with the clock. -/
theorem columns_step (ho : e.before.Ordered) {claimed failed : Bool} {row' : Row}
    (hrow : ∀ row, e.before.job? id = some row →
      Columns row claimed failed ∧ row.updatedAt.AtMost e.act.now)
    (hnew : e.before.lastJobId < id → claimed = false ∧ failed = false)
    (hafter : e.after.job? id = some row') :
    Columns row' (claimed || e.claims id) (failed || e.reports id) ∧
      (e.before.job? id = some row' ∨ row'.updatedAt = e.act.now) := by
  have hreported : e.reports id = true → row'.lastError.isSome = true :=
    fun h => lastError_of_reports h hafter
  have hfate := e.fate ho id
  rw [hafter] at hfate
  generalize hbefore : e.before.job? id = row? at hfate hrow
  generalize hop : e.act.operation = operation at hfate
  generalize hreply : e.reply = reply at hfate
  have quiet : (operation == .claimNext) = false → e.claims id = false := by
    intro hother
    rw [Exchange.claims, hop, hother, Bool.false_and]
  cases hfate with
  | kept =>
    obtain ⟨hcolumns, -⟩ := hrow row' rfl
    refine ⟨?_, Or.inl rfl⟩
    rw [claims_of_kept (hbefore.trans hafter.symm), Bool.or_false]
    cases hreports : e.reports id with
    | false => rwa [Bool.or_false]
    | true =>
      have hfailed := hcolumns.failed
      rw [hreported hreports] at hfailed
      rwa [← hfailed, Bool.true_or, hfailed]
  | created _ _ job attempts hinserts hid =>
    obtain ⟨rfl, rfl⟩ := hnew (by omega)
    rw [reports_of_none hbefore, quiet (by cases operation <;> first | rfl | cases hinserts)]
    exact ⟨.of_fresh job attempts id _, Or.inr rfl⟩
  | claimed row =>
    obtain ⟨hcolumns, hnow⟩ := hrow row rfl
    have hclaims : e.claims id = true := by
      simp [Exchange.claims, hop, changes_of_ne hbefore hafter (row.claimed_ne _)]
    have hreports : e.reports id = false := by simp [Exchange.reports, hop]
    rw [hclaims, hreports, Bool.or_true, Bool.or_false]
    exact ⟨hcolumns.claim hnow, Or.inr rfl⟩
  | completed row _ hnames =>
    obtain ⟨hcolumns, hnow⟩ := hrow row rfl
    have hreports : e.reports id = false := by
      rcases hnames with rfl | rfl <;> simp [Exchange.reports, hop]
    rw [quiet (by rcases hnames with rfl | rfl <;> rfl), hreports, Bool.or_false, Bool.or_false,
      ← hcolumns.failed]
    exact ⟨hcolumns.close hnow .completed (by decide) row.lastError, Or.inr rfl⟩
  | rescheduled row error retryAt =>
    obtain ⟨hcolumns, hnow⟩ := hrow row rfl
    have hreports : e.reports id = true := by simp [Exchange.reports, hop, hreply]
    rw [quiet rfl, hreports, Bool.or_false, Bool.or_true]
    exact ⟨hcolumns.reopen hnow (some error) retryAt, Or.inr rfl⟩
  | buried row error =>
    obtain ⟨hcolumns, hnow⟩ := hrow row rfl
    have hreports : e.reports id = true := by simp [Exchange.reports, hop, hreply]
    rw [quiet rfl, hreports, Bool.or_false, Bool.or_true]
    exact ⟨hcolumns.close hnow .failed (by decide) (some error), Or.inr rfl⟩
  | reclaimed row olderThan hstuck =>
    obtain ⟨hcolumns, hnow⟩ := hrow row rfl
    have hreports : e.reports id = false := by simp [Exchange.reports, hop]
    rw [quiet rfl, hreports, Bool.or_false, Bool.or_false]
    exact ⟨hcolumns.reclaim hnow hstuck, Or.inr rfl⟩
  | cancelled row =>
    obtain ⟨hcolumns, hnow⟩ := hrow row rfl
    have hreports : e.reports id = false := by simp [Exchange.reports, hop]
    rw [quiet rfl, hreports, Bool.or_false, Bool.or_false, ← hcolumns.failed]
    exact ⟨hcolumns.close hnow .cancelled (by decide) row.lastError, Or.inr rfl⟩

end Step

theorem Change.migrated {now : Instant} {tables after : Tables} {operation : Operation}
    {reply : Except StoreError Reply} (h : Change now tables operation reply after) :
    after.migrated = tables.migrated := by
  have hrecord : ∀ entry, (tables.record entry).migrated = tables.migrated := by
    intro entry
    unfold Tables.record
    split <;> rfl
  cases h with
  | recorded id => exact hrecord _
  | settled id => exact hrecord ⟨id, now⟩
  | _ => rfl

/-- The columns of all rows say what the history says. -/
structure Kept (history : List Exchange) (tables : Tables) : Prop where
  ordered : tables.Ordered
  migrated : tables.migrated = 3
  columns : ∀ id row, tables.job? id = some row →
    Columns row (history.any (·.claims id)) (history.any (·.reports id))
  stamped : ∀ id row, tables.job? id = some row → ∃ e ∈ history, row.updatedAt = e.act.now
  untouched : ∀ id, tables.lastJobId < id →
    history.any (·.claims id) = false ∧ history.any (·.reports id) = false

theorem Kept.start : Kept [] Tables.empty where
  ordered := Tables.empty_ordered
  migrated := rfl
  columns _ _ h := nomatch h
  stamped _ _ h := nomatch h
  untouched _ _ := ⟨rfl, rfl⟩

/-- No exchange before it was later than this one. -/
theorem Kept.next {history : List Exchange} {e : Exchange} (h : Kept history e.before)
    (hclock : ∀ c ∈ history, c.act.now.AtMost e.act.now) : Kept (history ++ [e]) e.after := by
  have hstep : ∀ id row', e.after.job? id = some row' →
      Columns row' (history.any (·.claims id) || e.claims id)
        (history.any (·.reports id) || e.reports id) ∧
      (e.before.job? id = some row' ∨ row'.updatedAt = e.act.now) := by
    intro id row' hafter
    refine columns_step h.ordered (fun row hrow => ⟨h.columns id row hrow, ?_⟩) (h.untouched id) hafter
    obtain ⟨c, hc, hstamp⟩ := h.stamped id row hrow
    exact hstamp ▸ hclock c hc
  refine ⟨e.change.ordered h.ordered, e.change.migrated.trans h.migrated, fun id row hrow => ?_,
    fun id row hrow => ?_, fun id hid => ?_⟩
  · rw [Run.any_snoc, Run.any_snoc]
    exact (hstep id row hrow).1
  · rcases (hstep id row hrow).2 with hold | hnow
    · obtain ⟨c, hc, hstamp⟩ := h.stamped id row hold
      exact ⟨c, List.mem_append_left _ hc, hstamp⟩
    · exact ⟨e, by simp, hnow⟩
  · have hlast : e.before.lastJobId < id := Int.lt_of_le_of_lt e.change.lastJobId_le hid
    have hraises := raises_of_fresh h.ordered hlast
    have hclaims : e.claims id = false := by
      rw [Exchange.raises, Nat.add_eq_zero_iff] at hraises
      exact Bool.toNat_eq_zero.mp hraises.1
    rw [Run.any_snoc, Run.any_snoc, (h.untouched id hlast).1, (h.untouched id hlast).2, hclaims,
      reports_of_none (h.ordered.job?_of_fresh hlast)]
    exact ⟨rfl, rfl⟩

/-- What is kept is kept along a run whose clock does not go back. -/
theorem kept_run (requests : List Request) (hclock : requests.Pairwise fun a b => a.now.AtMost b.now) :
    Kept (Tables.empty.exchanges requests) (Tables.empty.afterAll requests) := by
  rw [← @Run.map_act_history _ _ Tables.after Tables.empty requests, List.pairwise_map] at hclock
  refine @Run.invariant_of_past _ _ Tables.after
    (fun earlier e => ∀ c ∈ earlier, c.act.now.AtMost e.act.now) _ _ Kept.start
    (fun _ tables request hnow h => h.next (e := ⟨tables, request⟩) hnow) requests ?_
  intro earlier e later hsplit c hc
  rw [hsplit] at hclock
  exact (List.pairwise_append.mp hclock).2.2 c hc e List.mem_cons_self

/-- Rows with the names of statuses are counted under one of them each. -/
theorem sum_counts {jobs : List Row} (h : ∀ row ∈ jobs, row.status ∈ Status.all.map Status.name) :
    let counted := fun status => (jobs.filter (·.hasStatus status)).length
    counted .pending + counted .processing + counted .completed + counted .failed + counted .cancelled =
      jobs.length := by
  induction jobs with
  | nil => rfl
  | cons row jobs ih =>
    obtain ⟨hrow, hjobs⟩ := List.forall_mem_cons.mp h
    obtain ⟨status, -, hstatus⟩ := List.mem_map.mp hrow
    rw [List.length_cons, ← ih hjobs]
    have hone : ∀ other, ((row :: jobs).filter (·.hasStatus other)).length =
        (jobs.filter (·.hasStatus other)).length + if other = status then 1 else 0 := by
      intro other
      have hhas : row.hasStatus other = decide (other = status) := by
        rw [Row.hasStatus, ← hstatus, Bool.eq_iff_iff, beq_iff_eq, decide_eq_true_iff]
        exact ⟨fun h => (status_of_name h).symm, fun h => h ▸ rfl⟩
      rw [List.filter_cons, hhas]
      split <;> simp_all
    dsimp only at ih ⊢
    simp only [hone]
    cases status <;> simp <;> omega

/-- **The columns agree.** In every run of the store whose clock does not go back, and in every state on
its way, each live row has one of the five statuses, its times are in order, and the columns that are set
say what was done with the job; and what is counted under the five statuses makes up the live rows. -/
theorem columns_agree (requests : List Request)
    (hclock : requests.Pairwise fun a b => a.now.AtMost b.now) :
    let tables := Tables.empty.afterAll requests
    (∀ row ∈ tables.jobs, Columns row
      ((Tables.empty.exchanges requests).any (·.claims row.id))
      ((Tables.empty.exchanges requests).any (·.reports row.id))) ∧
    ∃ counts : Status → Nat,
      (∀ status, (countByStatus status).perform tables = (.ok (counts status), tables)) ∧
      counts .pending + counts .processing + counts .completed + counts .failed + counts .cancelled =
        tables.jobs.length := by
  intro tables
  have hkept := kept_run requests hclock
  have hcolumns : ∀ row ∈ tables.jobs, Columns row
      ((Tables.empty.exchanges requests).any (·.claims row.id))
      ((Tables.empty.exchanges requests).any (·.reports row.id)) :=
    fun row hrow => hkept.columns row.id row (hkept.ordered.job?_of_mem hrow)
  refine ⟨hcolumns, fun status => (tables.jobs.filter (·.hasStatus status)).length, fun status => ?_,
    sum_counts fun row hrow => (hcolumns row hrow).status⟩
  have hthere : tables.has .jobs = true := by
    rw [Tables.has, hkept.migrated]
    rfl
  rw [Call.perform, countByStatus, execute_statement]
  simp only [hthere]
  rfl

theorem columns_agree_retried :
    let row : Row :=
      { id := 1, tenantId := none, jobType := "a", payload := [], status := Status.processing.name,
        idempotencyKey := none, attemptCount := 2, maxAttempts := 5, lastError := some "busy",
        runAt := wholeSecond 1, startedAt := some (wholeSecond 1), completedAt := none,
        createdAt := wholeSecond 0, updatedAt := wholeSecond 1 }
    (retried.Pairwise fun a b => a.now.AtMost b.now) ∧
      (Tables.empty.afterAll retried).jobs = [row] ∧ Columns row true true := by
  intro row
  have hclock : retried.Pairwise fun a b => a.now.AtMost b.now := by decide
  have hjobs : (Tables.empty.afterAll retried).jobs = [row] := by decide
  have hclaims : (Tables.empty.exchanges retried).any (·.claims row.id) = true := by decide
  have hreports : (Tables.empty.exchanges retried).any (·.reports row.id) = true := by decide
  have hrow := (columns_agree retried hclock).1 row (by rw [hjobs]; exact List.mem_singleton.mpr rfl)
  rw [hclaims, hreports] at hrow
  exact ⟨hclock, hjobs, hrow⟩

end Store

end DurableJobs
