import DurableJobs.Proofs.Store.Request

/-!
# Every request makes a change

The one place where calls are opened: `Request.change` shows that what a request does, with any clock
and any faults, is one of the cases of `Change`.
-/

set_option autoImplicit false

namespace DurableJobs.Store

variable {α : Type}

/-! ## Rows of an id -/

/-- Rows of an id that is not there are not changed. -/
theorem updateJobs_of_absent {tables : Tables} {id : Int} (change : Row → Row)
    (h : (tables.jobs.filter (·.id == id)).length = 0) :
    (tables.updateJobs (·.id == id) change).2 = tables := by
  have hnone : ∀ row ∈ tables.jobs, (row.id == id) = false := by
    simpa [List.filter_eq_nil_iff] using h
  have hmap : tables.jobs.map (fun row => if row.id == id then change row else row) = tables.jobs :=
    (List.map_congr_left fun row hrow => by simp [hnone row hrow]).trans (List.map_id' tables.jobs)
  simp only [Tables.updateJobs, hmap]

theorem job?_isSome_iff {tables : Tables} {id : Int} :
    (tables.job? id).isSome ↔ (tables.jobs.filter (·.id == id)).length ≠ 0 := by
  simp [Tables.job?, List.find?_isSome, List.filter_eq_nil_iff]

theorem amend_cases (id : Int) (change : Row → Row) (s : Session) :
    (∃ e after, (amend id change).execute s = (.error e, after) ∧ after.tables = s.tables) ∨
    ((s.tables.job? id).isSome ∧
      (amend id change).execute s =
        (.ok (), ⟨(s.tables.updateJobs (·.id == id) change).2, s.faults.tail⟩)) := by
  unfold amend
  rw [Call.execute_bind]
  rcases statement_cases .jobs (fun tables => .ok (tables.updateJobs (·.id == id) change)) s
    with ⟨e, after, h, ht⟩ | h
  · rw [h]
    exact Or.inl ⟨e, after, rfl, ht⟩
  · rw [h]
    dsimp only
    split
    · next hcount =>
      exact Or.inl ⟨_, _, rfl, updateJobs_of_absent change hcount⟩
    · next hcount =>
      exact Or.inr ⟨job?_isSome_iff.mpr hcount, rfl⟩

theorem amend_ok {id : Int} {change : Row → Row} {s after : Session}
    (h : (amend id change).execute s = (.ok (), after)) :
    (s.tables.job? id).isSome ∧ after.tables = (s.tables.updateJobs (·.id == id) change).2 := by
  rcases amend_cases id change s with ⟨e, after', herr, -⟩ | ⟨hlive, hok⟩
  · rw [herr] at h
    cases h
  · rw [hok] at h
    cases h
    exact ⟨hlive, rfl⟩

@[simp] theorem record_job? (tables : Tables) (entry : LedgerEntry) (id : Int) :
    (tables.record entry).job? id = tables.job? id := by
  unfold Tables.record
  split <;> rfl

/-! ## Shapes of calls

Nearly every call is a statement, an amendment or a transaction whose answer is wrapped up; what each of
these shapes can do is shown once. -/

section Shapes

variable {now : Instant} {operation : Operation} {s : Session} {wrap : α → Reply}

/-- A call that fails and leaves the tables alone is a failed change. -/
theorem Change.of_failed {tables after : Tables} {reply : Except StoreError Reply} (e : StoreError)
    (hreply : reply = .error e) (hafter : after = tables) :
    Change now tables operation reply after := by
  subst hreply hafter
  exact .failed operation e

theorem Change.of_statement {table : Table} {run : Tables → α × Tables}
    (h : Change now s.tables operation (.ok (wrap (run s.tables).1)) (run s.tables).2) :
    Change now s.tables operation
      ((wrap <$> statement table fun tables => .ok (run tables)).execute s).1
      ((wrap <$> statement table fun tables => .ok (run tables)).execute s).2.tables := by
  rw [Call.execute_map]
  rcases statement_cases table (fun tables => .ok (run tables)) s with ⟨e, after, he, ht⟩ | hok
  · rw [he]
    exact .of_failed e rfl ht
  · rw [hok]
    exact h

theorem Change.of_amend {id : Int} {change : Row → Row}
    (h : (s.tables.job? id).isSome →
      Change now s.tables operation (.ok .done) (s.tables.updateJobs (·.id == id) change).2) :
    Change now s.tables operation (((fun _ => Reply.done) <$> amend id change).execute s).1
      (((fun _ => Reply.done) <$> amend id change).execute s).2.tables := by
  rw [Call.execute_map]
  rcases amend_cases id change s with ⟨e, after, he, ht⟩ | ⟨hlive, hok⟩
  · rw [he]
    exact .of_failed e rfl ht
  · rw [hok]
    exact h hlive

theorem Change.of_transaction {body : Call α}
    (h : ∀ a faults after, body.execute ⟨s.tables, faults⟩ = (.ok a, after) →
      Change now s.tables operation (.ok (wrap a)) after.tables) :
    Change now s.tables operation ((wrap <$> transaction body).execute s).1
      ((wrap <$> transaction body).execute s).2.tables := by
  rw [Call.execute_map]
  rcases transaction_cases body s with ⟨e, after, he, ht⟩ | ⟨a, faults, after, hbody, hok, ht⟩
  · rw [he]
    exact .of_failed e rfl ht
  · rw [hok, ht]
    exact h a faults after hbody

end Shapes

/-! ## The calls that read a row back -/

theorem enqueue_cases (job : NewJob) (attempts : Int) (now : Instant) (s : Session) :
    (∃ e after, (enqueue job attempts now).execute s = (.error e, after) ∧ after.tables = s.tables) ∨
    (s.tables.keyTaken job.idempotencyKey = false ∧
      (enqueue job attempts now).execute s =
        ((Row.fresh job attempts now (s.tables.lastJobId + 1)).answer,
          ⟨(s.tables.insertJob (Row.fresh job attempts now)).2, s.faults.tail⟩)) := by
  unfold enqueue
  rw [Call.execute_bind]
  rcases statement_cases .jobs _ s with ⟨e, after, h, ht⟩ | h
  · rw [h]
    exact Or.inl ⟨e, after, rfl, ht⟩
  · rw [h]
    cases htaken : s.tables.keyTaken job.idempotencyKey with
    | true => exact Or.inl ⟨_, _, rfl, rfl⟩
    | false => exact Or.inr ⟨rfl, execute_readRow _ _⟩

/-- An enqueue that answers has put in the row it answers. -/
theorem enqueue_ok {job : NewJob} {attempts : Int} {now : Instant} {s after : Session} {answer : Job}
    (h : (enqueue job attempts now).execute s = (.ok answer, after)) :
    (Row.fresh job attempts now (s.tables.lastJobId + 1)).read? = some answer ∧
      after.tables = (s.tables.insertJob (Row.fresh job attempts now)).2 := by
  rcases enqueue_cases job attempts now s with ⟨e, after', herr, -⟩ | ⟨-, hok⟩
  · rw [herr] at h
    cases h
  · rw [hok] at h
    obtain ⟨hanswer, rfl⟩ := Prod.mk.inj h
    refine ⟨?_, rfl⟩
    cases hread : (Row.fresh job attempts now (s.tables.lastJobId + 1)).read? with
    | none =>
      rw [Row.answer, hread] at hanswer
      cases hanswer
    | some read =>
      rw [Row.answer, hread] at hanswer
      cases hanswer
      rfl

theorem findJob_tables (id : Int) (s : Session) :
    ((findJob id).execute s).2.tables = s.tables := by
  unfold findJob
  rw [Call.execute_bind]
  rcases statement_cases .jobs (fun tables => .ok (tables.job? id, tables)) s with ⟨e, after, h, ht⟩ | h
  · rw [h]
    exact ht
  · rw [h]
    cases s.tables.job? id with
    | none => rfl
    | some row =>
      simp only [Call.execute_bind, execute_readRow]
      cases row.read? <;> rfl

theorem claimNext_cases (now : Instant) (s : Session) :
    (∃ e after, (claimNext now).execute s = (.error e, after) ∧ after.tables = s.tables) ∨
    (s.tables.candidate? now = none ∧
      (claimNext now).execute s = (.ok none, ⟨s.tables, s.faults.tail⟩)) ∨
    ∃ row, s.tables.candidate? now = some row ∧
      (claimNext now).execute s =
        ((row.claimed now).answer.map some,
          ⟨(s.tables.updateJobs (·.id == row.id) (·.claimed now)).2, s.faults.tail⟩) := by
  unfold claimNext
  rw [Call.execute_bind]
  rcases statement_cases .jobs _ s with ⟨e, after, h, ht⟩ | h
  · rw [h]
    exact Or.inl ⟨e, after, rfl, ht⟩
  · rw [h]
    right
    cases hfirst : s.tables.candidate? now with
    | none => exact Or.inl ⟨rfl, rfl⟩
    | some row =>
      refine Or.inr ⟨row, rfl, ?_⟩
      simp only [Call.execute_bind, execute_readRow, Row.answer]
      cases (row.claimed now).read? <;> rfl

/-! ## All operations -/

theorem change_claimNext (now : Instant) (s : Session) :
    Change now s.tables .claimNext ((Operation.claimNext.call now).execute s).1
      ((Operation.claimNext.call now).execute s).2.tables := by
  simp only [Operation.call, Call.execute_map]
  rcases claimNext_cases now s with ⟨e, after, h, ht⟩ | ⟨hnone, h⟩ | ⟨row, hfirst, h⟩
  · rw [h]
    exact .of_failed e rfl ht
  · rw [h]
    exact .idle hnone
  · rw [h]
    have hreply : ((row.claimed now).answer.map some).map Reply.claimed =
        (row.claimed now).answer.map fun job => Reply.claimed (some job) := by
      cases (row.claimed now).answer <;> rfl
    dsimp only
    rw [hreply]
    exact .claimed row hfirst

theorem change_completeProcessed (id : Int) (now : Instant) (s : Session) :
    Change now s.tables (.completeProcessed id)
      (((Operation.completeProcessed id).call now).execute s).1
      (((Operation.completeProcessed id).call now).execute s).2.tables := by
  refine .of_transaction fun _ faults after hbody => ?_
  obtain ⟨_, mid, hrecord, hmark⟩ := Call.execute_bind_ok hbody
  obtain ⟨-, hmid⟩ := Prod.mk.inj (Except.ok.inj (statement_ok hrecord))
  obtain ⟨hlive, hafter⟩ := amend_ok hmark
  rw [← hmid, record_job?] at hlive
  rw [hafter, ← hmid]
  exact .settled id hlive

theorem change_archive (job : Job) (lastError : String) (now : Instant) (s : Session) :
    Change now s.tables (.archive job lastError)
      (((Operation.archive job lastError).call now).execute s).1
      (((Operation.archive job lastError).call now).execute s).2.tables := by
  refine .of_transaction fun letter faults after hbody => ?_
  obtain ⟨written, mid, hinsert, hrest⟩ := Call.execute_bind_ok hbody
  obtain ⟨count, last, hdelete, hend⟩ := Call.execute_bind_ok hrest
  obtain ⟨rfl, hmid⟩ := Prod.mk.inj (Except.ok.inj (statement_ok hinsert))
  obtain ⟨rfl, hlast⟩ := Prod.mk.inj (Except.ok.inj (statement_ok hdelete))
  split at hend
  · obtain ⟨_, _, hgive, -⟩ := Call.execute_bind_ok hend
    exact absurd hgive execute_giveUp_ne_ok
  · next hcount =>
    cases hend
    rw [← hlast, ← hmid]
    refine .archived job lastError (job?_isSome_iff.mpr fun hnone => hcount ?_)
    rw [← hmid]
    exact hnone

theorem change_restore (id attempts : Int) (now : Instant) (s : Session) :
    Change now s.tables (.restore id attempts) (((Operation.restore id attempts).call now).execute s).1
      (((Operation.restore id attempts).call now).execute s).2.tables := by
  refine .of_transaction fun job faults after hbody => ?_
  obtain ⟨found, mid, hfind, hrest⟩ := Call.execute_bind_ok hbody
  obtain ⟨hfound, hmid⟩ := Prod.mk.inj (Except.ok.inj (statement_ok hfind))
  cases found with
  | none => exact absurd hrest execute_giveUp_ne_ok
  | some letter =>
    obtain ⟨restored, filled, henqueue, hlater⟩ := Call.execute_bind_ok hrest
    obtain ⟨_, last, hdelete, hend⟩ := Call.execute_bind_ok hlater
    obtain ⟨hread, hfilled⟩ := enqueue_ok henqueue
    obtain ⟨-, hlast⟩ := Prod.mk.inj (Except.ok.inj (statement_ok hdelete))
    cases hend
    rw [← hlast, hfilled, ← hmid]
    rw [← hmid] at hread
    exact .restored id attempts letter job hfound hread

theorem change_findJob (id : Int) (now : Instant) (s : Session) :
    Change now s.tables (.findJob id) (((Operation.findJob id).call now).execute s).1
      (((Operation.findJob id).call now).execute s).2.tables := by
  simp only [Operation.call, Call.execute_map, findJob_tables]
  cases ((findJob id).execute s).1 with
  | error e => exact .failed _ e
  | ok answer => exact .looked _ _ rfl nofun

theorem change_reclaimStuck (olderThan : Int) (now : Instant) (s : Session) :
    Change now s.tables (.reclaimStuck olderThan)
      (((Operation.reclaimStuck olderThan).call now).execute s).1
      (((Operation.reclaimStuck olderThan).call now).execute s).2.tables := by
  simp only [Operation.call, reclaimStuck]
  cases hage : now.addNanos? (-olderThan) with
  | none => exact .failed _ _
  | some threshold => exact .of_statement (.reclaimed olderThan threshold hage)

/-- What a call does is one of the changes. -/
theorem operation_change (operation : Operation) (now : Instant) (s : Session) :
    Change now s.tables operation ((operation.call now).execute s).1
      ((operation.call now).execute s).2.tables := by
  cases operation with
  | enqueue job attempts =>
    simp only [Operation.call, Call.execute_map]
    rcases enqueue_cases job attempts now s with ⟨e, after, h, ht⟩ | ⟨hfree, h⟩
    · rw [h]
      exact .of_failed e rfl ht
    · rw [h]
      exact .enqueued job attempts hfree
  | findJob id => exact change_findJob id now s
  | claimNext => exact change_claimNext now s
  | markCompleted id => exact .of_amend (.completed id)
  | markFailed id error retryAt => exact .of_amend (.rescheduled id error retryAt)
  | markDead id error => exact .of_amend (.buried id error)
  | recordProcessed id => exact .of_statement (.recorded id)
  | isProcessed id => exact .of_statement (.looked _ _ rfl fun _ hid => by cases hid; rfl)
  | completeProcessed id => exact change_completeProcessed id now s
  | reclaimStuck olderThan => exact change_reclaimStuck olderThan now s
  | cancel id =>
    simp only [Operation.call, Store.cancel, bind_pure_comp, Functor.map_map]
    exact .of_statement (.cancelled id)
  | countByStatus status => exact .of_statement (.looked _ _ rfl nofun)
  | archive job lastError => exact change_archive job lastError now s
  | restore id attempts => exact change_restore id attempts now s
  | findDeadLetter id => exact .of_statement (.looked _ _ rfl nofun)
  | listDeadLetters limit => exact .of_statement (.looked _ _ rfl nofun)
  | deleteDeadLetter id =>
    simp only [Operation.call, Store.deleteDeadLetter, bind_pure_comp, Functor.map_map]
    exact .of_statement (.discarded id)
  | purgeArchivedBefore cutoff => exact .of_statement (.purged cutoff)
  | countDeadLetters => exact .of_statement (.looked _ _ rfl nofun)
  | countDeadLettersByType => exact .of_statement (.looked _ _ rfl nofun)

/-- A request makes a change of the tables it meets. -/
theorem Exchange.change (e : Exchange) :
    Change e.act.now e.before e.act.operation e.reply e.after :=
  operation_change e.act.operation e.act.now ⟨e.before, e.act.faults⟩

end DurableJobs.Store
