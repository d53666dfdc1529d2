import DurableJobs.Proofs.Store.Claims
import DurableJobs.Proofs.Store.Verdicts

/-!
# Rows in processing

A row is put into processing by a claim and by nothing else, and every write takes it out again. So a row
that is in processing is as its last claim left it, and its `updatedAt` is the clock of that claim
(`held_run`). That is what a pass over stuck jobs goes by: it takes a row back if that clock lies far
enough in the past, and otherwise leaves it alone (`Row.passed`).
-/

set_option autoImplicit false

namespace DurableJobs.Store

variable {now : Instant} {tables after : Tables}

/-- What a pass over stuck jobs makes of a row. -/
def Row.passed (row : Row) (threshold now : Instant) : Row :=
  if row.hasStatus .processing && storedBefore row.updatedAt threshold then row.reclaimed now else row

theorem Row.passed_of_other {row : Row} (h : row.hasStatus .processing = false)
    (threshold now : Instant) : row.passed threshold now = row := by
  rw [passed, h]
  rfl

theorem Row.passed_of_processing {row : Row} (h : row.hasStatus .processing = true)
    (threshold now : Instant) : row.passed threshold now =
      if storedBefore row.updatedAt threshold then row.reclaimed now else row := by
  rw [passed, h, Bool.true_and]

/-- What is in processing behind a pass has been so before it, and for too short a time. -/
theorem Row.passed_processing {row : Row} {threshold now : Instant}
    (h : (row.passed threshold now).hasStatus .processing = true) :
    row.passed threshold now = row ∧ storedBefore row.updatedAt threshold = false := by
  unfold passed at h ⊢
  split at h
  · cases hasStatus_of_status (a := .pending) rfl h
  · next hyoung =>
    rw [h, Bool.true_and, Bool.not_eq_true] at hyoung
    rw [h, hyoung]
    exact ⟨rfl, rfl⟩

theorem Change.passed {olderThan : Int} {reply : Reply}
    (h : Change now tables (.reclaimStuck olderThan) (.ok reply) after) :
    ∃ threshold, now.addNanos? (-olderThan) = some threshold ∧
      ∀ id, after.job? id = (tables.job? id).map (·.passed threshold now) := by
  generalize hanswer : Except.ok reply = answer at h
  cases h with
  | failed => cases hanswer
  | looked _ _ hlooks => cases hlooks
  | reclaimed _ threshold hage =>
    exact ⟨threshold, hage, fun id => tables.updateJobs_job? _ _ id fun _ => rfl⟩

/-- Rows in processing are as the last claim of them left them. -/
structure Held (history : List Exchange) (tables : Tables) : Prop where
  ordered : tables.Ordered
  claimed : ∀ id row, tables.job? id = some row → row.hasStatus .processing = true →
    ∃ c ∈ history, c.claims id = true ∧ c.after.job? id = some row ∧ row.updatedAt = c.act.now

theorem Held.start : Held [] Tables.empty where
  ordered := Tables.empty_ordered
  claimed _ _ h := nomatch h

theorem Held.next {history : List Exchange} {e : Exchange} (h : Held history e.before) :
    Held (history ++ [e]) e.after where
  ordered := e.change.ordered h.ordered
  claimed id row' hafter hprocessing := by
    have hfate := e.fate h.ordered id
    rw [hafter] at hfate
    generalize hbefore : e.before.job? id = row? at hfate
    generalize hop : e.act.operation = operation at hfate
    generalize e.reply = reply at hfate
    have only : ∀ status : Status, row'.status = status.name → status = .processing :=
      fun _ hstatus => hasStatus_of_status hstatus hprocessing
    cases hfate with
    | kept =>
      obtain ⟨c, hc, hclaim⟩ := h.claimed id row' hbefore hprocessing
      exact ⟨c, List.mem_append_left _ hc, hclaim⟩
    | claimed row =>
      have hclaims : e.claims id = true := by
        simp [Exchange.claims, hop, changes_of_ne hbefore hafter (row.claimed_ne _)]
      exact ⟨e, List.mem_append_right _ (List.mem_singleton.mpr rfl), hclaims, hafter, rfl⟩
    | created | rescheduled | reclaimed => cases only .pending rfl
    | completed => cases only .completed rfl
    | buried => cases only .failed rfl
    | cancelled => cases only .cancelled rfl

theorem held_run (requests : List Request) :
    Held (Tables.empty.exchanges requests) (Tables.empty.afterAll requests) :=
  Run.invariant Held.start (fun _ tables request _ h => h.next (e := ⟨tables, request⟩)) requests
    fun _ _ => trivial

end DurableJobs.Store
