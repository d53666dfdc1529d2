import DurableJobs.Proofs.Store.Columns

/-!
# The ledger

A job whose work is done is in the ledger, and whoever meets the job again asks the ledger before it does
the work a second time. So an answer of the ledger has to be right in both directions, and it has to stay
right: an entry that got lost would let the work be done again, and one that was put in by a request that
failed would leave it undone.

Two operations write there, and only the first write of an id counts. `Exchange.entries_after` is what one
exchange does to the entries of an id, whatever else it does; the history of a run is then read off the
ledger by `firstRecord?`.
-/

set_option autoImplicit false

namespace DurableJobs.Store

namespace Tables

/-- The entries of an id. There should be one at most. -/
def entries (tables : Tables) (id : Int) : List LedgerEntry := tables.ledger.filter (·.jobId == id)

theorem isRecorded_eq (tables : Tables) (id : Int) :
    tables.isRecorded id = !(tables.entries id).isEmpty := by
  rw [Bool.eq_iff_iff]
  simp [isRecorded, entries, List.filter_eq_nil_iff]

theorem isRecorded_eq_false_iff (tables : Tables) (id : Int) :
    tables.isRecorded id = false ↔ tables.entries id = [] := by
  simp [isRecorded_eq]

/-! ## Recording -/

/-- An entry that is put in has its place among those that are there. -/
theorem ledger_record (tables : Tables) (entry : LedgerEntry) :
    (tables.record entry).ledger =
      if tables.isRecorded entry.jobId then tables.ledger
      else tables.ledger.takeWhile (·.jobId < entry.jobId) ++
        entry :: tables.ledger.dropWhile (·.jobId < entry.jobId) := by
  unfold record isRecorded
  split <;> rfl

theorem ledger_sublist_record (tables : Tables) (entry : LedgerEntry) :
    tables.ledger.Sublist (tables.record entry).ledger := by
  rw [ledger_record]
  split
  · exact List.Sublist.refl _
  · have hsplit : tables.ledger.takeWhile (·.jobId < entry.jobId) ++
        tables.ledger.dropWhile (·.jobId < entry.jobId) = tables.ledger :=
      List.takeWhile_append_dropWhile
    conv_lhs => rw [← hsplit]
    exact (List.sublist_cons_self entry _).append_left _

/-- **The first record of an id counts**, and no record counts for another id. -/
theorem entries_record (tables : Tables) (entry : LedgerEntry) (id : Int) :
    (tables.record entry).entries id =
      if entry.jobId = id ∧ tables.entries id = [] then [entry] else tables.entries id := by
  by_cases hid : entry.jobId = id
  · subst hid
    cases hrecorded : tables.isRecorded entry.jobId with
    | true =>
      have hthere : tables.entries entry.jobId ≠ [] := by
        intro hnone
        rw [(tables.isRecorded_eq_false_iff _).mpr hnone] at hrecorded
        cases hrecorded
      rw [if_neg fun h => hthere h.2, entries, entries, ledger_record, if_pos hrecorded]
    | false =>
      have hnone := (tables.isRecorded_eq_false_iff _).mp hrecorded
      -- nothing of this id stands on either side of the place
      have hsides : (tables.ledger.takeWhile (·.jobId < entry.jobId)).filter (·.jobId == entry.jobId) ++
          (tables.ledger.dropWhile (·.jobId < entry.jobId)).filter (·.jobId == entry.jobId) = [] := by
        rw [← List.filter_append, List.takeWhile_append_dropWhile]
        exact hnone
      obtain ⟨hbefore, hbehind⟩ := List.append_eq_nil_iff.mp hsides
      rw [if_pos ⟨rfl, hnone⟩, entries, ledger_record, hrecorded]
      simp [hbefore, hbehind]
  · rw [if_neg fun h => hid h.1, entries, ledger_record]
    split
    · rfl
    · rw [List.filter_append, List.filter_cons_of_neg (by simpa using hid), ← List.filter_append,
        List.takeWhile_append_dropWhile, entries]

end Tables

/-! ## What an exchange does to the ledger -/

namespace Exchange

/-- The work of an id is recorded, by itself or together with the completion of its row. -/
def records (e : Exchange) (id : Int) : Bool :=
  match e.act.operation, e.reply with
  | .recordProcessed other, .ok _ | .completeProcessed other, .ok _ => other == id
  | _, _ => false

end Exchange

section Step

variable {e : Exchange} {id : Int}

/-- The ledger behind an exchange is the one before it, or one in which a job is recorded. -/
theorem ledger_cases (e : Exchange) :
    (e.after.ledger = e.before.ledger ∧ ∀ id, e.records id = false) ∨
      ∃ other, e.after.ledger = (e.before.record ⟨other, e.act.now⟩).ledger ∧
        ∀ id, e.records id = (other == id) := by
  have hchange := e.change
  unfold Exchange.records
  generalize e.act.operation = operation at hchange ⊢
  generalize e.reply = reply at hchange ⊢
  generalize e.after = after at hchange ⊢
  cases hchange with
  | recorded other => exact Or.inr ⟨other, rfl, fun _ => rfl⟩
  | settled other => exact Or.inr ⟨other, rfl, fun _ => rfl⟩
  | failed => exact Or.inl ⟨rfl, fun _ => by cases operation <;> rfl⟩
  | looked _ _ hlooks =>
    refine Or.inl ⟨rfl, fun _ => ?_⟩
    cases operation <;> first | rfl | cases hlooks
  | _ => exact Or.inl ⟨rfl, fun _ => rfl⟩

/-- **The entries of an id** stay as they are, unless the id is recorded for the first time. -/
theorem Exchange.entries_after (e : Exchange) (id : Int) :
    e.after.entries id =
      if e.records id = true ∧ e.before.entries id = [] then [⟨id, e.act.now⟩]
      else e.before.entries id := by
  rcases ledger_cases e with ⟨hledger, hrecords⟩ | ⟨other, hledger, hrecords⟩
  · rw [hrecords id, if_neg (by simp), Tables.entries, hledger, Tables.entries]
  · have hentries : e.after.entries id = (e.before.record ⟨other, e.act.now⟩).entries id := by
      rw [Tables.entries, hledger, Tables.entries]
    rw [hentries, Tables.entries_record]
    by_cases hid : other = id
    · subst hid
      simp [hrecords]
    · rw [if_neg fun h => hid h.1, if_neg fun h => hid (beq_iff_eq.mp ((hrecords id).symm.trans h.1))]

end Step

/-! ## Along a run -/

/-- The entry that the first record of an id leaves. -/
def firstRecord? (history : List Exchange) (id : Int) : Option LedgerEntry :=
  (history.find? (·.records id)).map fun e => ⟨id, e.act.now⟩

theorem firstRecord?_isSome (history : List Exchange) (id : Int) :
    (firstRecord? history id).isSome = history.any (·.records id) := by
  rw [firstRecord?, Option.isSome_map, Bool.eq_iff_iff, List.find?_isSome, List.any_eq_true]

theorem firstRecord?_snoc (history : List Exchange) (e : Exchange) (id : Int) :
    firstRecord? (history ++ [e]) id =
      (firstRecord? history id).or (if e.records id = true then some ⟨id, e.act.now⟩ else none) := by
  rw [firstRecord?, List.find?_append, firstRecord?]
  cases history.find? (·.records id) with
  | some _ => rfl
  | none => cases h : e.records id <;> simp [h]

/-- The ledger holds the first records of all ids, and nothing else. -/
structure Booked (history : List Exchange) (tables : Tables) : Prop where
  migrated : tables.migrated = 3
  entries : ∀ id, tables.entries id = (firstRecord? history id).toList

theorem Booked.start : Booked [] Tables.empty := ⟨rfl, fun _ => rfl⟩

theorem Booked.next {history : List Exchange} {e : Exchange} (h : Booked history e.before) :
    Booked (history ++ [e]) e.after where
  migrated := e.change.migrated.trans h.migrated
  entries id := by
    rw [e.entries_after, h.entries, firstRecord?_snoc]
    cases firstRecord? history id with
    | some entry => simp
    | none => cases e.records id <;> rfl

theorem booked_run (requests : List Request) :
    Booked (Tables.empty.exchanges requests) (Tables.empty.afterAll requests) :=
  Run.invariant Booked.start (fun _ tables request _ h => h.next (e := ⟨tables, request⟩)) requests
    fun _ _ => trivial

theorem Booked.isRecorded {history : List Exchange} {tables : Tables} (h : Booked history tables)
    (id : Int) : tables.isRecorded id = history.any (·.records id) := by
  rw [tables.isRecorded_eq, h.entries, ← firstRecord?_isSome]
  cases firstRecord? history id <;> rfl

/-- What the ledger answers when its table is there. -/
theorem reply_isProcessed {e : Exchange} {id : Int} (hop : e.act.operation = .isProcessed id)
    (hthere : e.before.migrated = 3) :
    e.reply = if e.act.faults.headD false then .error .database
      else .ok (.flag (e.before.isRecorded id)) := by
  have hledger : e.before.has .ledger = true := by
    rw [Tables.has, hthere]
    rfl
  change ((e.act.operation.call e.act.now).execute ⟨e.before, e.act.faults⟩).1 = _
  rw [hop, Operation.call, Call.execute_map, isProcessed, execute_statement]
  simp only [hledger]
  cases e.act.faults.headD false <;> rfl

/-- **The ledger says what has been recorded.** In every run of the store:

* whoever asks whether an id is in the ledger is told, unless the database fails the question, whether a
  request before it has recorded the id and been answered;
* the ledger has one entry for each id that has been recorded, of the time of the first record, and none
  for any other id;
* no request takes an entry away or changes one, and a request that records nothing, because it failed
  or is about something else, leaves the ledger as it is. -/
theorem ledger_says_what_was_recorded (requests : List Request) :
    (∀ (earlier later : List Exchange) (e : Exchange) (id : Int),
      Tables.empty.exchanges requests = earlier ++ e :: later → e.act.operation = .isProcessed id →
        e.reply = if e.act.faults.headD false then .error .database
          else .ok (.flag (earlier.any (·.records id)))) ∧
    (∀ id, (Tables.empty.afterAll requests).entries id =
      (firstRecord? (Tables.empty.exchanges requests) id).toList) ∧
    ∀ e : Exchange, e.before.ledger.Sublist e.after.ledger ∧
      ((∀ id, e.records id = false) → e.after.ledger = e.before.ledger) := by
  refine ⟨fun earlier later e id hsplit hop => ?_, (booked_run requests).entries, fun e => ?_⟩
  · obtain ⟨before, after, -, rfl, hbefore, -⟩ := Run.history_split hsplit
    have hbooked : Booked (Tables.empty.exchanges before) e.before := by
      rw [hbefore]
      exact booked_run before
    rw [reply_isProcessed hop hbooked.migrated, hbooked.isRecorded]
  · rcases ledger_cases e with ⟨hledger, -⟩ | ⟨other, hledger, hrecords⟩
    · exact ⟨hledger ▸ List.Sublist.refl _, fun _ => hledger⟩
    · refine ⟨hledger ▸ e.before.ledger_sublist_record _, fun hnone => ?_⟩
      have hother := hnone other
      rw [hrecords, beq_self_eq_true] at hother
      cases hother

/-- A job is done, recorded once more and archived; the completion of a job that is not there is undone. -/
def recordedTwice : List Request :=
  let known : Job :=
    { id := 1, tenantId := none, jobType := "a", payload := [], status := .completed,
      idempotencyKey := none, attemptCount := 0, maxAttempts := 5, lastError := none,
      runAt := wholeSecond 0, startedAt := none, completedAt := some (wholeSecond 1),
      createdAt := wholeSecond 0, updatedAt := wholeSecond 1 }
  let ask (second : Nat) (operation : Operation) : Request := ⟨operation, wholeSecond second, []⟩
  [ask 0 (.enqueue ⟨"a", [], none, none, none, none⟩ standardMaxAttempts), ask 1 (.completeProcessed 1),
   ask 2 (.recordProcessed 1), ask 3 (.completeProcessed 7), ask 4 (.archive known "bad"),
   ask 5 (.purgeArchivedBefore (wholeSecond 9)), ask 6 (.isProcessed 1)]

theorem ledger_says_what_was_recorded_twice :
    ∃ (earlier : List Exchange) (e : Exchange),
      Tables.empty.exchanges recordedTwice = earlier ++ [e] ∧ e.act.operation = .isProcessed 1 ∧
      e.reply = .ok (.flag true) ∧
      (Tables.empty.afterAll recordedTwice).entries 1 = [⟨1, wholeSecond 1⟩] ∧
      (Tables.empty.afterAll recordedTwice).entries 7 = [] := by
  have hlaw := ledger_says_what_was_recorded recordedTwice
  let earlier := Tables.empty.exchanges (recordedTwice.take 6)
  let e : Exchange := ⟨Tables.empty.afterAll (recordedTwice.take 6), .isProcessed 1, wholeSecond 6, []⟩
  have hsplit : Tables.empty.exchanges recordedTwice = earlier ++ [e] := rfl
  have hrecorded : earlier.any (·.records 1) = true := by decide
  have hfirst : firstRecord? (Tables.empty.exchanges recordedTwice) 1 = some ⟨1, wholeSecond 1⟩ := by
    decide
  have hnone : firstRecord? (Tables.empty.exchanges recordedTwice) 7 = none := by decide
  refine ⟨earlier, e, hsplit, rfl, ?_, ?_, ?_⟩
  · rw [hlaw.1 earlier [] e 1 hsplit rfl, hrecorded]
    rfl
  · rw [hlaw.2.1 1, hfirst]
    rfl
  · rw [hlaw.2.1 7, hnone]
    rfl

end DurableJobs.Store
