import DurableJobs.Proofs.Store.Rows

/-!
# Verdicts

Five operations say what is to become of a job, and none of them looks at its row first: the job is
done, failed, final, recorded or archived, whatever it was before. A verdict that is answered is always
carried out (`Change.standing_of_verdict`), and it is the only thing that moves a row which is closed
(`Fate.verdict_of_closed`). What keeps closed rows closed is therefore not the store but who asks.

The ledger and the archive grow by verdicts too, and by nothing else that names a job.
-/

set_option autoImplicit false

namespace DurableJobs.Store

/-- The statuses in which a job is over. -/
def closedStatuses : List Status := [.completed, .cancelled, .failed]

/-- Where a job stands: the status of its row, or nothing when it has none. -/
def Tables.standing (tables : Tables) (id : Int) : Option String := (tables.job? id).map (·.status)

/-- The job that an operation speaks about, and where it is to stand. -/
def Operation.verdict? : Operation → Option (Int × Option String)
  | .markCompleted id | .completeProcessed id => some (id, some Status.completed.name)
  | .markFailed id _ _ => some (id, some Status.pending.name)
  | .markDead id _ => some (id, some Status.failed.name)
  | .archive job _ => some (job.id, none)
  | _ => none

theorem verdict?_of_looks {operation : Operation} (h : operation.looks = true) :
    operation.verdict? = none := by
  cases operation <;> first | rfl | exact nomatch h

variable {now : Instant} {tables after : Tables} {operation : Operation} {id : Int}

/-! ## Verdicts are carried out -/

theorem standing_of_write {change : Row → Row} {status : Status} (hid : ∀ row, (change row).id = row.id)
    (hstatus : ∀ row, (change row).status = status.name) (live : (tables.job? id).isSome) :
    (tables.updateJobs (·.id == id) change).2.standing id = some status.name := by
  obtain ⟨row, hrow⟩ := Option.isSome_iff_exists.mp live
  rw [Tables.standing, tables.updateJobs_job? _ change id hid, hrow]
  simp [(Tables.mem_of_job? hrow).2, hstatus]

/-- A verdict that is answered is carried out, wherever the job stood. -/
theorem Change.standing_of_verdict {reply : Reply} {verdict : Option String}
    (h : Change now tables operation (.ok reply) after)
    (hverdict : operation.verdict? = some (id, verdict)) :
    after.standing id = verdict := by
  generalize hanswer : Except.ok reply = answer at h
  cases h with
  | failed => cases hanswer
  | looked _ _ hlooks =>
    rw [verdict?_of_looks hlooks] at hverdict
    cases hverdict
  | completed other live =>
    cases hverdict
    exact standing_of_write (fun _ => rfl) (fun _ => rfl) live
  | rescheduled other error retryAt live =>
    cases hverdict
    exact standing_of_write (fun _ => rfl) (fun _ => rfl) live
  | buried other error live =>
    cases hverdict
    exact standing_of_write (fun _ => rfl) (fun _ => rfl) live
  | settled other live =>
    cases hverdict
    refine standing_of_write (fun _ => rfl) (fun _ => rfl) ?_
    rw [record_job?]
    exact live
  | archived job lastError =>
    cases hverdict
    rw [Tables.standing, Tables.deleteJob_job?, if_pos rfl]
    rfl
  | _ => cases hverdict

/-! ## What moves a row -/

/-- A row that does not stay where it stands was pending, or was processing and is taken back, or has
been given a verdict. -/
theorem Fate.moved {last : Int} {reply : Except StoreError Reply} {row : Row} {after? : Option Row}
    (h : Fate now last id operation reply (some row) after?)
    (hmoves : after?.map (·.status) ≠ some row.status) :
    row.hasStatus .pending = true ∨
    (row.hasStatus .processing = true ∧ ∃ olderThan, operation = .reclaimStuck olderThan) ∨
    (operation.verdict? = some (id, after?.map (·.status)) ∧ ∃ answer, reply = .ok answer) := by
  cases h with
  | kept => exact absurd rfl hmoves
  | claimed _ due => exact Or.inl (Row.pending_of_isDue due)
  | completed _ _ names =>
    refine Or.inr (Or.inr ?_)
    rcases names with rfl | rfl
    · exact ⟨rfl, _, rfl⟩
    · exact ⟨rfl, _, rfl⟩
  | rescheduled | buried => exact Or.inr (Or.inr ⟨rfl, _, rfl⟩)
  | reclaimed _ olderThan stuck => exact Or.inr (Or.inl ⟨stuck, olderThan, rfl⟩)
  | cancelled _ waiting => exact Or.inl waiting
  | archived _ job lastError names =>
    refine Or.inr (Or.inr ⟨?_, _, rfl⟩)
    rw [Operation.verdict?, names]
    rfl

/-- A row stays as it is unless it waits and is claimed or cancelled, or is in processing and taken back,
or is given a verdict. -/
theorem Fate.left {last : Int} {reply : Except StoreError Reply} {row : Row} {after? : Option Row}
    (h : Fate now last id operation reply (some row) after?) :
    after? = some row ∨
    (row.hasStatus .pending = true ∧ (operation = .claimNext ∨ operation = .cancel id)) ∨
    (row.hasStatus .processing = true ∧ ∃ olderThan, operation = .reclaimStuck olderThan) ∨
    (∃ verdict, operation.verdict? = some (id, verdict)) ∧ ∃ answer, reply = .ok answer := by
  cases h with
  | kept => exact Or.inl rfl
  | claimed _ due => exact Or.inr (Or.inl ⟨Row.pending_of_isDue due, Or.inl rfl⟩)
  | cancelled _ waiting => exact Or.inr (Or.inl ⟨waiting, Or.inr rfl⟩)
  | reclaimed _ olderThan stuck => exact Or.inr (Or.inr (Or.inl ⟨stuck, olderThan, rfl⟩))
  | completed _ _ names =>
    refine Or.inr (Or.inr (Or.inr ⟨?_, _, rfl⟩))
    rcases names with rfl | rfl <;> exact ⟨_, rfl⟩
  | rescheduled | buried => exact Or.inr (Or.inr (Or.inr ⟨⟨_, rfl⟩, _, rfl⟩))
  | archived _ job _ names => exact Or.inr (Or.inr (Or.inr ⟨⟨_, by rw [← names]; rfl⟩, _, rfl⟩))

theorem hasStatus_of_status {row : Row} {a b : Status} (hrow : row.status = a.name)
    (hb : row.hasStatus b = true) : a = b :=
  Row.hasStatus_unique (beq_iff_eq.mpr hrow) hb

/-- Nothing but a verdict moves a closed row. -/
theorem Fate.verdict_of_closed {last : Int} {reply : Except StoreError Reply} {row : Row}
    {after? : Option Row} {status : Status} (h : Fate now last id operation reply (some row) after?)
    (hclosed : status ∈ closedStatuses) (hrow : row.status = status.name)
    (hmoves : after?.map (·.status) ≠ some row.status) :
    operation.verdict? = some (id, after?.map (·.status)) ∧ ∃ answer, reply = .ok answer := by
  rcases h.moved hmoves with hpending | ⟨hprocessing, -⟩ | hverdict
  · cases hasStatus_of_status hrow hpending
    exact absurd hclosed (by decide)
  · cases hasStatus_of_status hrow hprocessing
    exact absurd hclosed (by decide)
  · exact hverdict

/-- A row is completed by the two operations that complete it. -/
theorem Fate.completed_by {last : Int} {reply : Except StoreError Reply} {row? after? : Option Row}
    (h : Fate now last id operation reply row? after?)
    (hafter : after?.map (·.status) = some Status.completed.name) :
    row?.map (·.status) = some Status.completed.name ∨
      operation = .markCompleted id ∨ operation = .completeProcessed id := by
  have only : ∀ status : Status, some status.name = some Status.completed.name →
      status = .completed := fun _ h => status_of_name (Option.some.inj h)
  cases h with
  | kept => exact Or.inl hafter
  | completed _ _ names => exact Or.inr names
  | archived => cases hafter
  | created | rescheduled | reclaimed => cases only .pending hafter
  | claimed => cases only .processing hafter
  | buried => cases only .failed hafter
  | cancelled => cases only .cancelled hafter

/-- A row that is pending has been before, or is new, or has been put off, or was taken back. -/
theorem Fate.pending_by {last : Int} {reply : Except StoreError Reply} {row? : Option Row} {row' : Row}
    (h : Fate now last id operation reply row? (some row')) (hpending : row'.hasStatus .pending = true) :
    row? = some row' ∨ last < id ∨
      (∃ error, operation = .markFailed id error row'.runAt ∧ reply = .ok .done) ∨
      ∃ olderThan, operation = .reclaimStuck olderThan := by
  have only : ∀ status : Status, (row'.status = status.name) → status = .pending := fun _ h =>
    hasStatus_of_status h hpending
  generalize hafter : some row' = after? at h
  cases h with
  | kept =>
    subst hafter
    exact Or.inl rfl
  | created => exact Or.inr (Or.inl (by omega))
  | rescheduled _ error =>
    cases hafter
    exact Or.inr (Or.inr (Or.inl ⟨error, rfl, rfl⟩))
  | reclaimed _ olderThan => exact Or.inr (Or.inr (Or.inr ⟨olderThan, rfl⟩))
  | claimed =>
    cases hafter
    cases only .processing rfl
  | completed =>
    cases hafter
    cases only .completed rfl
  | buried =>
    cases hafter
    cases only .failed rfl
  | cancelled =>
    cases hafter
    cases only .cancelled rfl
  | archived => cases hafter

/-! ## The ledger and the archive -/

theorem Tables.isRecorded_record {entry : LedgerEntry}
    (h : (tables.record entry).isRecorded id = true) :
    tables.isRecorded id = true ∨ entry.jobId = id := by
  unfold Tables.record at h
  split at h
  · exact Or.inl h
  · simp only [Tables.isRecorded, List.any_append, List.any_cons, Bool.or_eq_true, beq_iff_eq] at h ⊢
    have hsplit : tables.ledger.takeWhile (·.jobId < entry.jobId) ++
        tables.ledger.dropWhile (·.jobId < entry.jobId) = tables.ledger :=
      List.takeWhile_append_dropWhile
    rw [← hsplit, List.any_append, Bool.or_eq_true]
    tauto

/-- The ledger grows by the two operations that record a job. -/
theorem Change.ledger_grows {reply : Except StoreError Reply}
    (h : Change now tables operation reply after) (hid : after.isRecorded id = true) :
    tables.isRecorded id = true ∨
      operation = .recordProcessed id ∨ operation = .completeProcessed id := by
  cases h with
  | recorded other =>
    rcases Tables.isRecorded_record hid with hold | rfl
    · exact Or.inl hold
    · exact Or.inr (Or.inl rfl)
  | settled other =>
    change (tables.record ⟨other, now⟩).isRecorded id = true at hid
    rcases Tables.isRecorded_record hid with hold | rfl
    · exact Or.inl hold
    · exact Or.inr (Or.inr rfl)
  | _ => exact Or.inl hid

/-- The archive grows by archiving, the letter of the job that is archived. -/
theorem Change.archive_grows {reply : Except StoreError Reply}
    (h : Change now tables operation reply after) {letter : DeadLetter} (hletter : letter ∈ after.deadLetters) :
    letter ∈ tables.deadLetters ∨ ∃ job lastError, operation = .archive job lastError ∧
      letter = letterOf job lastError now (tables.lastDeadLetterId + 1) := by
  have hrecord : ∀ entry, (tables.record entry).deadLetters = tables.deadLetters := by
    intro entry
    unfold Tables.record
    split <;> rfl
  cases h with
  | archived job lastError =>
    rcases List.mem_append.mp hletter with hold | hnew
    · exact Or.inl hold
    · exact Or.inr ⟨job, lastError, rfl, List.mem_singleton.mp hnew⟩
  | restored | discarded | purged => exact Or.inl (List.mem_filter.mp hletter).1
  | recorded other =>
    rw [hrecord] at hletter
    exact Or.inl hletter
  | settled other =>
    rw [show ((tables.record ⟨other, now⟩).updateJobs _ _).2.deadLetters = _ from hrecord _] at hletter
    exact Or.inl hletter
  | _ => exact Or.inl hletter

end DurableJobs.Store
