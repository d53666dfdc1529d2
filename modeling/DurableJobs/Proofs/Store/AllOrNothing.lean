import DurableJobs.DeadLetters
import DurableJobs.Proofs.Store.Whereabouts

/-!
# All or nothing

Four operations write several rows at once, or a row that another caller may have written first: a job is
put in, its work is recorded together with its completion, it is archived, and it is made a job again.
Each of them can be stopped at many places: at every statement, the beginning, the commit and the giving
up of its transaction included, by a table that is not there, by a row that is missing or by a key that
is taken.

`Operation.Unhindered` says that there is nothing of the kind, and `all_or_nothing` that this decides
everything: unhindered an operation leaves all that it writes, and hindered it answers an error and
leaves the tables as they were, the last ids included, with nothing counted.
-/

set_option autoImplicit false

namespace DurableJobs.Store

/-! ## What can be in the way -/

/-- The database carries out the first statements of a call. -/
def Answered (faults : List Bool) (count : Nat) : Prop := ∀ n < count, faults.getD n false = false

theorem answered_zero (faults : List Bool) : Answered faults 0 ↔ True :=
  iff_true_intro fun _ h => absurd h (Nat.not_lt_zero _)

theorem answered_succ (faults : List Bool) (count : Nat) :
    Answered faults (count + 1) ↔ faults.headD false = false ∧ Answered faults.tail count := by
  have hhead : faults.getD 0 false = faults.headD false := by cases faults <;> rfl
  have htail : ∀ n, faults.getD (n + 1) false = faults.tail.getD n false := by
    intro n
    cases faults <;> rfl
  constructor
  · intro h
    refine ⟨hhead ▸ h 0 (Nat.succ_pos count), fun n hn => ?_⟩
    rw [← htail]
    exact h (n + 1) (Nat.succ_lt_succ hn)
  · rintro ⟨hfirst, hrest⟩ n hn
    cases n with
    | zero => exact hhead.trans hfirst
    | succ n => exact (htail n).trans (hrest n (Nat.lt_of_succ_lt_succ hn))

namespace Operation

/-- How many statements an operation makes that does all of its work or none. The beginning and the end
of a transaction are statements, too. -/
def statements? : Operation → Option Nat
  | enqueue _ _ => some 1
  | completeProcessed _ | archive _ _ => some 4
  | restore _ _ => some 5
  | _ => none

/-- The tables that it writes to. -/
def writesTo : Operation → List Table
  | enqueue _ _ => [.jobs]
  | completeProcessed _ => [.ledger, .jobs]
  | archive _ _ | restore _ _ => [.deadLetters, .jobs]
  | _ => []

/-- What is in its way in the tables: a key that is taken, or a row that is missing. -/
def obstacle? (tables : Tables) : Operation → Option StoreError
  | enqueue job _ =>
      if tables.keyTaken job.idempotencyKey then some (.duplicate (job.idempotencyKey.getD ""))
      else none
  | completeProcessed id => if (tables.job? id).isSome then none else some .notFound
  | archive job _ => if (tables.job? job.id).isSome then none else some .notFound
  | restore id attempts =>
      if (tables.deadLetter? id).isSome then if fitsCounter attempts then none else some .database
      else some .notFound
  | _ => none

/-- Nothing is in the way of an operation. -/
structure Unhindered (operation : Operation) (tables : Tables) (faults : List Bool) : Prop where
  answered : ∀ count, operation.statements? = some count → Answered faults count
  there : ∀ table ∈ operation.writesTo, tables.has table = true
  free : operation.obstacle? tables = none

/-- The tables with all that an operation writes. -/
def written (now : Instant) (tables : Tables) : Operation → Tables
  | enqueue job attempts => (tables.insertJob (Row.fresh job attempts now)).2
  | completeProcessed id =>
      ((tables.record ⟨id, now⟩).updateJobs (·.id == id) (·.completed now)).2
  | archive job lastError =>
      ((tables.insertDeadLetter (letterOf job lastError now)).2.deleteJob job.id).2
  | restore id attempts =>
      match tables.deadLetter? id with
      | some letter =>
          ((tables.insertJob (Row.fresh (jobOfLetter letter) attempts now)).2.deleteDeadLetters
            (·.id == id)).2
      | none => tables
  | _ => tables

/-- Carry an operation out with the counters at hand: what is archived goes through the dead letter queue,
which counts it. -/
def serve (operation : Operation) (now : Instant) (metrics : Metrics) (session : Session) :
    Except StoreError Reply × Metrics × Session :=
  match operation with
  | archive job lastError =>
      let (answer, metrics, session) := DeadLetters.move job lastError now metrics session
      (answer.map .letter, metrics, session)
  | operation =>
      let (answer, session) := (operation.call now).execute session
      (answer, metrics, session)

/-- The counters when an operation has done its work. -/
def counted (metrics : Metrics) : Operation → Metrics
  | archive job _ => metrics.deadLettered job.jobType
  | _ => metrics

end Operation

/-! ## When calls answer -/

variable {now : Instant} {s after : Session}

theorem execute_readRow_eq_ok {row : Row} {job : Job} :
    (readRow row).execute s = (.ok job, after) ↔ row.read? = some job ∧ after = s := by
  rw [execute_readRow]
  cases row.read? <;> simp [eq_comm]

/-- A statement that cannot refuse answers when it is carried out. -/
theorem execute_statement_ok_eq_ok {α : Type} {table : Table} {run : Tables → α × Tables} {a : α} :
    (statement table fun tables => .ok (run tables)).execute s = (.ok a, after) ↔
      s.faults.headD false = false ∧ s.tables.has table = true ∧ a = (run s.tables).1 ∧
        after = ⟨(run s.tables).2, s.faults.tail⟩ := by
  obtain ⟨tables, faults⟩ := after
  rw [execute_statement_eq_ok, Except.ok.injEq, Prod.ext_iff, Session.mk.injEq, and_assoc]
  simp only [eq_comm]

theorem enqueue_eq_ok {job : NewJob} {attempts : Int} {answer : Job} :
    (enqueue job attempts now).execute s = (.ok answer, after) ↔
      s.faults.headD false = false ∧ s.tables.has .jobs = true ∧
        s.tables.keyTaken job.idempotencyKey = false ∧
        (Row.fresh job attempts now (s.tables.lastJobId + 1)).read? = some answer ∧
        after = ⟨(s.tables.insertJob (Row.fresh job attempts now)).2, s.faults.tail⟩ := by
  unfold enqueue
  simp only [Call.execute_bind_eq_ok, execute_statement_eq_ok, execute_readRow_eq_ok]
  constructor
  · rintro ⟨row, ⟨tables, faults⟩, ⟨hfault, hthere, hrun, hleft⟩, hread, rfl⟩
    split at hrun
    · cases hrun
    · next hfree =>
      cases hrun
      cases hleft
      exact ⟨hfault, hthere, Bool.eq_false_iff.mpr hfree, hread, rfl⟩
  · rintro ⟨hfault, hthere, hfree, hread, rfl⟩
    refine ⟨_, ⟨(s.tables.insertJob _).2, s.faults.tail⟩, ⟨hfault, hthere, ?_, rfl⟩, hread, rfl⟩
    rw [hfree]
    rfl

theorem amend_eq_ok {id : Int} {change : Row → Row} {u : Unit} :
    (amend id change).execute s = (.ok u, after) ↔
      s.faults.headD false = false ∧ s.tables.has .jobs = true ∧ (s.tables.job? id).isSome = true ∧
        after = ⟨(s.tables.updateJobs (·.id == id) change).2, s.faults.tail⟩ := by
  unfold amend
  simp only [Call.execute_bind_eq_ok, execute_statement_ok_eq_ok, and_assoc, exists_and_left,
    exists_eq_left]
  rw [job?_isSome_iff]
  refine and_congr_right fun _ => and_congr_right fun _ => ?_
  change Call.execute (if (s.tables.jobs.filter (·.id == id)).length = 0 then _ else _) _ = _ ↔ _
  split
  · next hnone => exact iff_of_false nofun fun h => h.1 hnone
  · next hcount =>
    rw [Call.execute_pure_eq_ok]
    exact ⟨fun h => ⟨hcount, h.2⟩, fun h => ⟨rfl, h.2⟩⟩

theorem has_record (tables : Tables) (entry : LedgerEntry) (table : Table) :
    (tables.record entry).has table = tables.has table := by
  unfold Tables.record
  split <;> rfl

theorem completeProcessed_eq_ok {id : Int} {u : Unit} :
    (completeProcessed id now).execute s = (.ok u, after) ↔
      Answered s.faults 4 ∧ s.tables.has .ledger = true ∧ s.tables.has .jobs = true ∧
        (s.tables.job? id).isSome = true ∧
        after = ⟨((s.tables.record ⟨id, now⟩).updateJobs (·.id == id) (·.completed now)).2,
          s.faults.drop 4⟩ := by
  unfold completeProcessed recordProcessed markCompleted
  simp only [execute_transaction_eq_ok, Call.execute_bind_eq_ok, execute_statement_ok_eq_ok,
    amend_eq_ok, answered_succ, answered_zero, and_assoc, exists_and_left, exists_eq_left, exists_const,
    has_record, record_job?, ← List.drop_tail, List.drop_zero, true_and]
  tauto

/-- A body that gives up without its row and answers otherwise. -/
theorem execute_unless_giveUp_eq_ok {α : Type} {missing : Prop} [Decidable missing] {error : StoreError}
    {a answer : α} :
    (if missing then (do giveUp error; return a) else return a : Call α).execute s = (.ok answer, after) ↔
      ¬missing ∧ answer = a ∧ after = s := by
  split
  · next hmissing =>
    refine iff_of_false (fun h => ?_) fun h => h.1 hmissing
    obtain ⟨_, _, hgive, -⟩ := Call.execute_bind_ok h
    exact execute_giveUp_ne_ok hgive
  · next hthere =>
    rw [Call.execute_pure_eq_ok]
    exact ⟨fun h => ⟨hthere, h⟩, And.right⟩

theorem archive_eq_ok {job : Job} {lastError : String} {letter : DeadLetter} :
    (archive job lastError now).execute s = (.ok letter, after) ↔
      Answered s.faults 4 ∧ s.tables.has .deadLetters = true ∧ s.tables.has .jobs = true ∧
        (s.tables.job? job.id).isSome = true ∧
        letter = letterOf job lastError now (s.tables.lastDeadLetterId + 1) ∧
        after = ⟨((s.tables.insertDeadLetter (letterOf job lastError now)).2.deleteJob job.id).2,
          s.faults.drop 4⟩ := by
  have hlive : (s.tables.job? job.id).isSome = true ↔
      ¬((s.tables.insertDeadLetter (letterOf job lastError now)).2.deleteJob job.id).1 = 0 :=
    job?_isSome_iff
  have hjobs : (s.tables.insertDeadLetter (letterOf job lastError now)).2.has .jobs =
      s.tables.has .jobs := rfl
  unfold archive
  simp only [execute_transaction_eq_ok, Call.execute_bind_eq_ok, execute_statement_ok_eq_ok,
    execute_unless_giveUp_eq_ok, answered_succ, answered_zero, and_assoc, exists_and_left, exists_eq_left,
    true_and, ← List.drop_tail, List.drop_zero]
  rw [hlive, ← hjobs]
  unfold letterOf Tables.insertDeadLetter
  tauto

/-- The row of a new job can be read when the counter that it is given fits. -/
theorem Row.fresh_read?_isSome (job : NewJob) (attempts : Int) (now : Instant) (id : Int) :
    (Row.fresh job attempts now id).read?.isSome = fitsCounter (job.maxAttempts.getD attempts) := by
  have hzero : fitsCounter (Row.fresh job attempts now id).attemptCount = true :=
    show fitsCounter 0 = true by decide
  rw [Row.read?, hzero, Bool.true_and]
  cases h : fitsCounter (Row.fresh job attempts now id).maxAttempts <;> exact h.symm

theorem restore_eq_ok {id attempts : Int} {job : Job} :
    (restore id attempts now).execute s = (.ok job, after) ↔
      Answered s.faults 5 ∧ s.tables.has .deadLetters = true ∧ s.tables.has .jobs = true ∧
      ∃ letter, s.tables.deadLetter? id = some letter ∧
        (Row.fresh (jobOfLetter letter) attempts now (s.tables.lastJobId + 1)).read? = some job ∧
        after = ⟨((s.tables.insertJob (Row.fresh (jobOfLetter letter) attempts now)).2.deleteDeadLetters
            (·.id == id)).2, s.faults.drop 5⟩ := by
  unfold restore
  simp only [execute_transaction_eq_ok, Call.execute_bind_eq_ok, execute_statement_ok_eq_ok,
    answered_succ, answered_zero, and_assoc, exists_and_left, exists_eq_left, true_and, ← List.drop_tail,
    List.drop_zero]
  cases s.tables.deadLetter? id with
  | none => simp [execute_giveUp_ne_ok]
  | some letter =>
    simp only [Option.some.injEq, Call.execute_bind_eq_ok, enqueue_eq_ok, execute_statement_ok_eq_ok,
      Call.execute_pure_eq_ok, and_assoc, exists_and_left, exists_eq_left, exists_eq_left']
    constructor
    · rintro ⟨hbegin, hfind, hletters, hinsert, hjobs, -, -, ⟨_, hread, hdelete, -, rfl, rfl⟩, hcommit, rfl⟩
      exact ⟨hbegin, hfind, hinsert, hdelete, hcommit, hletters, hjobs, hread, rfl⟩
    · rintro ⟨hbegin, hfind, hinsert, hdelete, hcommit, hletters, hjobs, hread, rfl⟩
      exact ⟨hbegin, hfind, hletters, hinsert, hjobs, rfl, _, ⟨job, hread, hdelete, hletters, rfl, rfl⟩,
        hcommit, rfl⟩

/-! ## All of it -/

theorem Operation.unhindered_iff {operation : Operation} {count : Nat} {tables : Tables}
    {faults : List Bool} (h : operation.statements? = some count) :
    operation.Unhindered tables faults ↔
      Answered faults count ∧ (∀ table ∈ operation.writesTo, tables.has table = true) ∧
        operation.obstacle? tables = none := by
  constructor
  · rintro ⟨hanswered, hthere, hfree⟩
    exact ⟨hanswered count h, hthere, hfree⟩
  · rintro ⟨hanswered, hthere, hfree⟩
    refine ⟨fun other hother => ?_, hthere, hfree⟩
    rw [h] at hother
    cases hother
    exact hanswered

/-- An operation answers when nothing is in its way, and has then written all of it. -/
theorem call_eq_ok_iff {operation : Operation} {count : Nat} (h : operation.statements? = some count)
    (hfits : operation.fits = true) :
    (∃ reply, (operation.call now).execute s = (.ok reply, after)) ↔
      operation.Unhindered s.tables s.faults ∧
        after = ⟨operation.written now s.tables, s.faults.drop count⟩ := by
  have hmap : ∀ {α : Type} (wrap : α → Reply) (call : Call α),
      (∃ reply, (wrap <$> call).execute s = (.ok reply, after)) ↔
        ∃ answer, call.execute s = (.ok answer, after) := by
    intro α wrap call
    rw [Call.execute_map]
    rcases call.execute s with ⟨_ | answer, last⟩ <;> simp [Except.map]
  rw [Operation.unhindered_iff h]
  cases operation with
  | enqueue job attempts =>
    cases h
    have hread : ∃ answer, (Row.fresh job attempts now (s.tables.lastJobId + 1)).read? = some answer :=
      Option.isSome_iff_exists.mp ((Row.fresh_read?_isSome ..).trans hfits)
    simp [Operation.call, hmap, enqueue_eq_ok, hread, answered_succ, answered_zero, Operation.writesTo,
      Operation.obstacle?, Operation.written, and_assoc]
  | completeProcessed id =>
    cases h
    simp [Operation.call, hmap, completeProcessed_eq_ok, Operation.writesTo, Operation.obstacle?,
      Operation.written, Option.isSome_iff_ne_none, and_assoc]
  | archive job lastError =>
    cases h
    simp [Operation.call, hmap, archive_eq_ok, Operation.writesTo, Operation.obstacle?,
      Operation.written, Option.isSome_iff_ne_none, and_assoc]
  | restore id attempts =>
    cases h
    simp only [Operation.call, hmap, restore_eq_ok, Operation.writesTo, Operation.obstacle?,
      Operation.written]
    cases s.tables.deadLetter? id with
    | none => simp
    | some letter =>
      have hread : (∃ job, (Row.fresh (jobOfLetter letter) attempts now (s.tables.lastJobId + 1)).read? =
          some job) ↔ fitsCounter attempts = true := by
        rw [← Option.isSome_iff_exists, Row.fresh_read?_isSome]
        rfl
      simp [hread, and_assoc]
  | _ => cases h

/-- An operation that does not answer leaves the tables as they were. -/
theorem tables_of_error {operation : Operation} {count : Nat} {error : StoreError}
    (h : operation.statements? = some count) (hfits : operation.fits = true)
    (herror : (operation.call now).execute s = (.error error, after)) : after.tables = s.tables := by
  have hchange := operation_change operation now s
  rw [herror] at hchange
  generalize hanswer : Except.error error = answer at hchange
  generalize after.tables = tables at hchange
  cases hchange with
  | failed => rfl
  | enqueued job attempts =>
    obtain ⟨read, hread⟩ := Row.fresh_answer hfits now (s.tables.lastJobId + 1)
    rw [hread] at hanswer
    cases hanswer
  | claimed => cases h
  | _ => cases hanswer

/-! ## What is answered instead -/

theorem execute_statement_of_there {α : Type} {table : Table}
    {run : Tables → Except StoreError (α × Tables)} (hfault : s.faults.headD false = false)
    (hthere : s.tables.has table = true) :
    (statement table run).execute s =
      match run s.tables with
      | .ok (answer, tables) => (.ok answer, ⟨tables, s.faults.tail⟩)
      | .error error => (.error error, ⟨s.tables, s.faults.tail⟩) := by
  rw [execute_statement, hfault, hthere]
  rfl

theorem enqueue_taken {job : NewJob} {attempts : Int} (hanswered : Answered s.faults 1)
    (hjobs : s.tables.has .jobs = true) (htaken : s.tables.keyTaken job.idempotencyKey = true) :
    ((enqueue job attempts now).execute s).1 = .error (.duplicate (job.idempotencyKey.getD "")) := by
  simp only [answered_succ] at hanswered
  simp only [enqueue, Call.execute_bind, execute_statement_of_there hanswered.1 hjobs, htaken, if_true]

theorem completeProcessed_missing {id : Int} (hanswered : Answered s.faults 4)
    (hledger : s.tables.has .ledger = true) (hjobs : s.tables.has .jobs = true)
    (hnone : (s.tables.job? id).isSome = false) :
    ((completeProcessed id now).execute s).1 = .error .notFound := by
  rw [← record_job? s.tables ⟨id, now⟩, Bool.eq_false_iff, Ne, job?_isSome_iff, not_not] at hnone
  have hcount : ((s.tables.record ⟨id, now⟩).updateJobs (·.id == id) (·.completed now)).1 = 0 := hnone
  simp only [answered_succ, answered_zero] at hanswered
  simp only [completeProcessed, recordProcessed, markCompleted, amend, execute_transaction,
    Call.execute_bind, execute_handshake, execute_statement_of_there, has_record, hledger, hjobs, hanswered,
    Bool.false_eq_true, if_false, hcount, if_true]
  rfl

theorem archive_missing {job : Job} {lastError : String} (hanswered : Answered s.faults 4)
    (hletters : s.tables.has .deadLetters = true) (hjobs : s.tables.has .jobs = true)
    (hnone : (s.tables.job? job.id).isSome = false) :
    ((archive job lastError now).execute s).1 = .error .notFound := by
  rw [Bool.eq_false_iff, Ne, job?_isSome_iff, not_not] at hnone
  have hfiled : ∀ letter, (s.tables.insertDeadLetter letter).2.has .jobs = true := fun _ => hjobs
  have hcount : ∀ letter, ((s.tables.insertDeadLetter letter).2.deleteJob job.id).1 = 0 :=
    fun _ => hnone
  simp only [answered_succ, answered_zero] at hanswered
  simp only [archive, giveUp, execute_transaction, Call.execute_bind, execute_handshake,
    execute_statement_of_there, hletters, hfiled, hanswered, Bool.false_eq_true, if_false, hcount, if_true]
  rfl

theorem restore_missing {id attempts : Int} (hanswered : Answered s.faults 5)
    (hletters : s.tables.has .deadLetters = true) (hnone : s.tables.deadLetter? id = none) :
    ((restore id attempts now).execute s).1 = .error .notFound := by
  simp only [answered_succ, answered_zero] at hanswered
  simp only [restore, giveUp, execute_transaction, Call.execute_bind, execute_handshake,
    execute_statement_of_there, hletters, hanswered, Bool.false_eq_true, if_false, hnone]
  rfl

theorem restore_unreadable {id attempts : Int} {letter : DeadLetter} (hanswered : Answered s.faults 5)
    (hletters : s.tables.has .deadLetters = true) (hjobs : s.tables.has .jobs = true)
    (hfound : s.tables.deadLetter? id = some letter) (hfits : fitsCounter attempts = false) :
    ((restore id attempts now).execute s).1 = .error .database := by
  have hread : (Row.fresh (jobOfLetter letter) attempts now (s.tables.lastJobId + 1)).read? = none := by
    rw [← Option.isNone_iff_eq_none, ← Option.isSome_eq_false_iff, Row.fresh_read?_isSome]
    exact hfits
  have hfree : s.tables.keyTaken none = false := rfl
  unfold jobOfLetter at hread
  simp only [answered_succ, answered_zero] at hanswered
  simp only [restore, enqueue, execute_transaction, Call.execute_bind, execute_handshake,
    execute_statement_of_there, hletters, hjobs, hanswered, Bool.false_eq_true, if_false, hfound, hfree,
    Tables.insertJob, execute_readRow, hread]
  rfl

/-- When the database fails nothing and the tables are there, an operation is answered what is in its
way. -/
theorem error_of_obstacle {operation : Operation} {count : Nat} {error : StoreError}
    (h : operation.statements? = some count) (hanswered : Answered s.faults count)
    (hthere : ∀ table ∈ operation.writesTo, s.tables.has table = true)
    (hobstacle : operation.obstacle? s.tables = some error) :
    ((operation.call now).execute s).1 = .error error := by
  have hfails : ∀ {α : Type} {call : Call α} {wrap : α → Reply}, (call.execute s).1 = .error error →
      ((wrap <$> call).execute s).1 = .error error := by
    intro α call wrap hcall
    rw [Call.execute_map, hcall]
    rfl
  cases operation with
  | enqueue job attempts =>
    cases h
    simp only [Operation.obstacle?, Option.ite_none_right_eq_some, Option.some.injEq] at hobstacle
    obtain ⟨htaken, rfl⟩ := hobstacle
    exact hfails (enqueue_taken hanswered (hthere .jobs (.head _)) htaken)
  | completeProcessed id =>
    cases h
    simp only [Operation.obstacle?, Option.ite_none_left_eq_some, Option.some.injEq] at hobstacle
    obtain ⟨hnone, rfl⟩ := hobstacle
    exact hfails (completeProcessed_missing hanswered (hthere .ledger (.head _))
      (hthere .jobs (.tail _ (.head _))) (Bool.eq_false_iff.mpr hnone))
  | archive job lastError =>
    cases h
    simp only [Operation.obstacle?, Option.ite_none_left_eq_some, Option.some.injEq] at hobstacle
    obtain ⟨hnone, rfl⟩ := hobstacle
    exact hfails (archive_missing hanswered (hthere .deadLetters (.head _))
      (hthere .jobs (.tail _ (.head _))) (Bool.eq_false_iff.mpr hnone))
  | restore id attempts =>
    cases h
    have hletters := hthere .deadLetters (.head _)
    cases hletter : s.tables.deadLetter? id with
    | none =>
      simp only [Operation.obstacle?, hletter] at hobstacle
      cases hobstacle
      exact hfails (restore_missing hanswered hletters hletter)
    | some letter =>
      simp only [Operation.obstacle?, hletter, Option.isSome_some, if_true, Option.ite_none_left_eq_some,
        Option.some.injEq] at hobstacle
      obtain ⟨hfits, rfl⟩ := hobstacle
      exact hfails (restore_unreadable hanswered hletters (hthere .jobs (.tail _ (.head _))) hletter
        (Bool.eq_false_iff.mpr hfits))
  | _ => cases h

/-- Serving an operation is its call, and counting what has been archived. -/
theorem Operation.serve_eq (operation : Operation) (now : Instant) (metrics : Metrics) (s : Session) :
    operation.serve now metrics s =
      match (operation.call now).execute s with
      | (.ok reply, after) => (.ok reply, operation.counted metrics, after)
      | (.error error, after) => (.error error, metrics, after) := by
  cases operation with
  | archive job lastError =>
    simp only [serve, DeadLetters.move, call, Call.execute_map]
    rcases (Store.archive job lastError now).execute s with ⟨_ | letter, after⟩ <;> rfl
  | _ =>
    simp only [serve, counted]
    split <;> simp_all

/-- **All or nothing.** An enqueue, the recording of a job's work with its completion, an archiving and a
restoring have one of two outcomes, from any tables and whatever the database fails. If nothing is in
the way, the operation is answered and everything that it writes is there. If anything is, it is
answered an error, the tables are as they were, with the last ids, and nothing has been counted; and if
the database was not in the way itself, the error says what was. -/
theorem all_or_nothing (operation : Operation) {count : Nat}
    (hcount : operation.statements? = some count) (hfits : operation.fits = true) (now : Instant)
    (metrics : Metrics) (s : Session) :
    (operation.Unhindered s.tables s.faults ∧ ∃ reply, operation.serve now metrics s =
      (.ok reply, operation.counted metrics, ⟨operation.written now s.tables, s.faults.drop count⟩)) ∨
    (¬operation.Unhindered s.tables s.faults ∧ ∃ error after,
      operation.serve now metrics s = (.error error, metrics, after) ∧ after.tables = s.tables ∧
        (Answered s.faults count → (∀ table ∈ operation.writesTo, s.tables.has table = true) →
          operation.obstacle? s.tables = some error)) := by
  rw [Operation.serve_eq]
  cases hcall : (operation.call now).execute s with
  | mk answer after =>
    cases answer with
    | ok reply =>
      obtain ⟨hfree, rfl⟩ := (call_eq_ok_iff hcount hfits).mp ⟨reply, hcall⟩
      exact Or.inl ⟨hfree, reply, rfl⟩
    | error error =>
      refine Or.inr ⟨fun hfree => ?_, error, after, rfl, tables_of_error hcount hfits hcall,
        fun hanswered hthere => ?_⟩
      · obtain ⟨reply, hok⟩ := (call_eq_ok_iff hcount hfits).mpr ⟨hfree, rfl⟩
        cases hcall.symm.trans hok
      · cases hobstacle : operation.obstacle? s.tables with
        | none =>
          have hfree := (Operation.unhindered_iff hcount).mpr ⟨hanswered, hthere, hobstacle⟩
          obtain ⟨reply, hok⟩ := (call_eq_ok_iff hcount hfits).mpr ⟨hfree, rfl⟩
          cases hcall.symm.trans hok
        | some obstacle =>
          have herror : ((operation.call now).execute s).1 = .error obstacle :=
            error_of_obstacle hcount hanswered hthere hobstacle
          rw [hcall] at herror
          cases herror
          rfl

/-- One job, and the database loses the commit of its archiving. -/
def loneJob : Tables := Tables.empty.after
  ⟨.enqueue ⟨"a", [], none, none, none, none⟩ standardMaxAttempts, wholeSecond 0, []⟩

theorem all_or_nothing_commitLost :
    let job : Job :=
      { id := 1, tenantId := none, jobType := "a", payload := [], status := .pending,
        idempotencyKey := none, attemptCount := 0, maxAttempts := 5, lastError := none,
        runAt := wholeSecond 0, startedAt := none, completedAt := none,
        createdAt := wholeSecond 0, updatedAt := wholeSecond 0 }
    let move : Operation := .archive job "bad"
    move.statements? = some 4 ∧ move.fits = true ∧ move.obstacle? loneJob = none ∧
    ∃ error after, move.serve (wholeSecond 1) Metrics.zero ⟨loneJob, [false, false, false, true]⟩ =
      (.error error, Metrics.zero, after) ∧ after.tables = loneJob := by
  intro job move
  refine ⟨rfl, rfl, rfl, ?_⟩
  rcases all_or_nothing move rfl rfl (wholeSecond 1) Metrics.zero ⟨loneJob, [false, false, false, true]⟩
    with ⟨hfree, -⟩ | ⟨-, error, after, hserve, htables, -⟩
  · exact absurd (hfree.answered 4 rfl 3 (by decide)) (by decide)
  · exact ⟨error, after, hserve, htables⟩

end DurableJobs.Store
