import DurableJobs.Proofs.Store.Whereabouts

/-!
# What an operation leaves alone

Most operations name a job or a dead letter by its id. What has any other id stays as it is, in all three
tables: that is `Elsewhere`, and `Change.elsewhere` has one case for each of them.

Two operations add a row besides, under an id that nobody has seen: archiving a job writes a dead letter,
and restoring a letter makes a job. `Elsewhere` speaks of the ids that have been handed out.
-/

set_option autoImplicit false

namespace DurableJobs.Store

/-- What an operation can name. -/
inductive Address where
  | job (id : Int)
  | letter (id : Int)
  deriving DecidableEq, Repr

/-- What an operation is addressed to. -/
def Operation.address? : Operation → Option Address
  | .findJob id | .markCompleted id | .markFailed id _ _ | .markDead id _ | .recordProcessed id
  | .isProcessed id | .completeProcessed id | .cancel id => some (.job id)
  | .archive job _ => some (.job job.id)
  | .restore id _ | .findDeadLetter id | .deleteDeadLetter id => some (.letter id)
  | _ => none

namespace Tables

/-- The entry of a job in the ledger. -/
def processed? (tables : Tables) (id : Int) : Option LedgerEntry := tables.ledger.find? (·.jobId == id)

/-- The rows of all other ids are the same. -/
structure Elsewhere (address : Address) (tables after : Tables) : Prop where
  jobs : ∀ id ≤ tables.lastJobId, address ≠ .job id → after.job? id = tables.job? id
  ledger : ∀ id, address ≠ .job id → after.processed? id = tables.processed? id
  deadLetters : ∀ id ≤ tables.lastDeadLetterId, address ≠ .letter id →
    after.deadLetter? id = tables.deadLetter? id

theorem Elsewhere.refl (address : Address) (tables : Tables) : Elsewhere address tables tables :=
  ⟨fun _ _ _ => rfl, fun _ _ => rfl, fun _ _ _ => rfl⟩

/-! ## The elementary writes -/

/-- A write to the rows of one id leaves those of another. -/
theorem updateJobs_job?_of_ne (tables : Tables) {picks : Row → Bool} {change : Row → Row} {id other : Int}
    (hid : ∀ row, (change row).id = row.id) (hpicks : ∀ row, picks row = true → row.id = id)
    (hne : id ≠ other) : (tables.updateJobs picks change).2.job? other = tables.job? other := by
  rw [tables.updateJobs_job? picks change other hid]
  cases hrow : tables.job? other with
  | none => rfl
  | some row =>
    have hother : row.id = other := (mem_of_job? hrow).2
    rw [Option.map_some, if_neg fun hpick => hne ((hpicks row hpick).symm.trans hother)]

theorem insertJob_job?_of_le (tables : Tables) {row : Int → Row} (hrow : ∀ n, (row n).id = n) {id : Int}
    (hid : id ≤ tables.lastJobId) : (tables.insertJob row).2.job? id = tables.job? id := by
  rw [tables.insertJob_job? row id hrow, if_neg (by omega), Option.or_none]

theorem record_processed?_of_ne (tables : Tables) {entry : LedgerEntry} {id : Int} (hne : entry.jobId ≠ id) :
    (tables.record entry).processed? id = tables.processed? id := by
  unfold record
  split
  · rfl
  · simp only [processed?, List.find?_append]
    rw [List.find?_cons_of_neg (by simpa using hne), ← List.find?_append, List.takeWhile_append_dropWhile]

theorem record_deadLetter? (tables : Tables) (entry : LedgerEntry) (id : Int) :
    (tables.record entry).deadLetter? id = tables.deadLetter? id := by
  unfold record
  split <;> rfl

theorem insertDeadLetter_deadLetter?_of_le (tables : Tables) {letter : Int → DeadLetter}
    (hletter : ∀ n, (letter n).id = n) {id : Int} (hid : id ≤ tables.lastDeadLetterId) :
    (tables.insertDeadLetter letter).2.deadLetter? id = tables.deadLetter? id := by
  have hnew : tables.lastDeadLetterId + 1 ≠ id := by omega
  simp [deadLetter?, insertDeadLetter, List.find?_append, hletter, hnew]

theorem deleteDeadLetters_deadLetter?_of_ne (tables : Tables) {id other : Int} (hne : id ≠ other) :
    (tables.deleteDeadLetters (·.id == id)).2.deadLetter? other = tables.deadLetter? other := by
  simp only [deadLetter?, deleteDeadLetters, List.find?_filter]
  congr 1
  funext letter
  by_cases hletter : letter.id = other
  · simp [hletter, hne.symm]
  · simp [hletter]

/-- A write to the rows of an id touches nothing else. -/
theorem Elsewhere.of_write (tables : Tables) {picks : Row → Bool} {change : Row → Row} {id : Int}
    (hid : ∀ row, (change row).id = row.id) (hpicks : ∀ row, picks row = true → row.id = id) :
    Elsewhere (.job id) tables (tables.updateJobs picks change).2 where
  jobs _ _ hother := tables.updateJobs_job?_of_ne hid hpicks fun heq => hother (congrArg Address.job heq)
  ledger _ _ := rfl
  deadLetters _ _ _ := rfl

theorem Elsewhere.of_record (tables : Tables) (id : Int) (now : Instant) :
    Elsewhere (.job id) tables (tables.record ⟨id, now⟩) where
  jobs other _ _ := record_job? tables ⟨id, now⟩ other
  ledger _ hother := tables.record_processed?_of_ne fun heq => hother (congrArg Address.job heq)
  deadLetters other _ _ := tables.record_deadLetter? ⟨id, now⟩ other

/-- What two operations leave alone, both together leave alone, when the first adds no id. -/
theorem Elsewhere.trans {address : Address} {tables mid after : Tables}
    (hjobs : mid.lastJobId = tables.lastJobId) (hletters : mid.lastDeadLetterId = tables.lastDeadLetterId)
    (first : Elsewhere address tables mid) (second : Elsewhere address mid after) :
    Elsewhere address tables after where
  jobs id hid hother := (second.jobs id (hjobs ▸ hid) hother).trans (first.jobs id hid hother)
  ledger id hother := (second.ledger id hother).trans (first.ledger id hother)
  deadLetters id hid hother :=
    (second.deadLetters id (hletters ▸ hid) hother).trans (first.deadLetters id hid hother)

theorem lastDeadLetterId_record (tables : Tables) (entry : LedgerEntry) :
    (tables.record entry).lastDeadLetterId = tables.lastDeadLetterId := by
  unfold record
  split <;> rfl

end Tables

/-! ## All operations -/

open Tables (Elsewhere)

variable {now : Instant} {tables after : Tables} {operation : Operation}
  {reply : Except StoreError Reply} {address : Address}

/-- **An operation leaves alone** whatever it is not addressed to. -/
theorem Change.elsewhere (h : Change now tables operation reply after)
    (haddress : operation.address? = some address) : Elsewhere address tables after := by
  have named : ∀ {id : Int} {row : Row}, (row.id == id) = true → row.id = id := beq_iff_eq.mp
  cases h with
  | failed | looked => exact .refl _ _
  | completed | rescheduled | buried =>
    cases haddress
    exact .of_write tables (fun _ => rfl) fun _ => named
  | cancelled =>
    cases haddress
    exact .of_write tables (fun _ => rfl) fun _ hpick => named (Bool.and_eq_true_iff.mp hpick).1
  | recorded id =>
    cases haddress
    exact .of_record tables id now
  | settled id =>
    cases haddress
    exact .trans (tables.lastJobId_record ⟨id, now⟩) (tables.lastDeadLetterId_record ⟨id, now⟩)
      (.of_record tables id now) (.of_write _ (fun _ => rfl) fun _ => named)
  | archived job lastError =>
    cases haddress
    refine ⟨fun other _ hother => ?_, fun _ _ => rfl, fun other hid _ => ?_⟩
    · rw [Tables.deleteJob_job?, if_neg fun heq => hother (congrArg Address.job heq.symm)]
      rfl
    · exact tables.insertDeadLetter_deadLetter?_of_le (fun _ => rfl) hid
  | restored id attempts letter =>
    cases haddress
    refine ⟨fun other hid _ => ?_, fun _ _ => rfl, fun other _ hother => ?_⟩
    · exact tables.insertJob_job?_of_le (fun _ => rfl) hid
    · exact tables.deleteDeadLetters_deadLetter?_of_ne fun heq => hother (congrArg Address.letter heq)
  | discarded id =>
    cases haddress
    exact ⟨fun _ _ _ => rfl, fun _ _ => rfl, fun other _ hother =>
      tables.deleteDeadLetters_deadLetter?_of_ne fun heq => hother (congrArg Address.letter heq)⟩
  | _ => cases haddress

end DurableJobs.Store
