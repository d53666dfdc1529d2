import DurableJobs.Proofs.Store.Execution
import DurableJobs.Proofs.Store.Request

/-!
# Calls that keep to the calendar

A call that goes back from the clock by an age may leave the calendar, and answers so before it asks the
database for anything. No other call reckons with times at all: what it is given it stores or compares. So
the answer belongs to the passes by age (`InCalendar.operation`), and a task, which never asks for one,
never gets it.

A call keeps to the calendar if its parts do, whatever the parts answer, and that carries over from the
statements to all that is built of them.
-/

set_option autoImplicit false

namespace DurableJobs.Store

variable {α β : Type}

/-- Whatever the tables and the faults of the database, a call does not answer that it has left the
calendar. -/
def Call.InCalendar (call : Call α) : Prop := ∀ s, (call.execute s).1 ≠ .error .calendarOverflow

namespace Call.InCalendar

theorem pure (a : α) : InCalendar (Pure.pure a : Call α) := fun _ h => nomatch h

theorem throw (error : StoreError) (herror : error ≠ .calendarOverflow) :
    InCalendar (MonadExcept.throw error : Call α) := by
  intro s h
  injection h with h
  exact herror h

theorem bind {call : Call α} {next : α → Call β} (hcall : InCalendar call)
    (hnext : ∀ a, InCalendar (next a)) : InCalendar (call >>= next) := by
  intro s
  have hfirst := hcall s
  rw [Call.execute_bind]
  rcases hrun : call.execute s with ⟨error | a, mid⟩
  · rw [hrun] at hfirst
    exact fun h => hfirst (congrArg Except.error (Except.error.inj h))
  · exact hnext a mid

theorem map (f : α → β) {call : Call α} (hcall : InCalendar call) : InCalendar (f <$> call) := by
  rw [← bind_pure_comp]
  exact hcall.bind fun a => pure (f a)

theorem statement {table : Table} {run : Tables → Except StoreError (α × Tables)}
    (hrun : ∀ tables, run tables ≠ .error .calendarOverflow) : InCalendar (statement table run) := by
  intro s
  have hran := hrun s.tables
  rw [execute_statement]
  split
  · exact nofun
  · rcases hanswer : run s.tables with error | ⟨a, tables⟩
    · rw [hanswer] at hran
      exact fun h => hran (congrArg Except.error (Except.error.inj h))
    · exact nofun

/-- A statement that answers whatever it finds. -/
theorem query {table : Table} {run : Tables → α × Tables} :
    InCalendar (Store.statement table fun tables => .ok (run tables)) := statement fun _ h => nomatch h

theorem handshake : InCalendar handshake := by
  intro s
  rw [execute_handshake]
  split <;> exact nofun

theorem giveUp (error : StoreError) (herror : error ≠ .calendarOverflow) :
    InCalendar (giveUp error : Call α) := handshake.bind fun _ => throw error herror

theorem transaction {body : Call α} (hbody : InCalendar body) : InCalendar (transaction body) := by
  intro s
  have hattempt : InCalendar (do Store.handshake; let a ← body; Store.handshake; return a) :=
    handshake.bind fun _ => hbody.bind fun a => handshake.bind fun _ => pure a
  have hran := hattempt s
  rw [execute_transaction]
  revert hran
  generalize Call.execute _ s = outcome
  obtain ⟨error | a, after⟩ := outcome
  · exact id
  · exact fun _ => nofun

theorem readRow (row : Row) : InCalendar (readRow row) := by
  intro s
  rw [execute_readRow]
  cases row.read? <;> exact nofun

theorem readRow? (row? : Option Row) :
    InCalendar (match row? with
      | some row => do return some (← Store.readRow row)
      | none => return none) := by
  cases row? with
  | none => exact pure none
  | some row => exact (readRow row).bind fun job => pure (some job)

theorem amend (id : Int) (change : Row → Row) : InCalendar (amend id change) :=
  query.bind fun count => by
    split
    · exact throw .notFound nofun
    · exact pure ()

theorem enqueue (job : NewJob) (attempts : Int) (now : Instant) :
    InCalendar (enqueue job attempts now) := by
  refine bind (statement fun tables h => ?_) readRow
  split at h <;> cases h

theorem archive (job : Job) (lastError : String) (now : Instant) :
    InCalendar (archive job lastError now) :=
  transaction <| query.bind fun letter => query.bind fun count => by
    split
    · exact (giveUp .notFound nofun).bind fun _ => pure letter
    · exact pure letter

theorem restore (id attempts : Int) (now : Instant) : InCalendar (restore id attempts now) :=
  transaction <| query.bind fun letter? => by
    cases letter? with
    | none => exact giveUp .notFound nofun
    | some letter => exact (enqueue _ _ _).bind fun job => query.bind fun _ => pure job

/-- **All operations but one** keep to the calendar. -/
theorem operation {operation : Operation} (h : ∀ age, operation ≠ .reclaimStuck age) (now : Instant) :
    InCalendar (operation.call now) := by
  cases operation with
  | enqueue job attempts => exact (enqueue job attempts now).map _
  | findJob id => exact (query.bind readRow?).map _
  | claimNext =>
    refine map _ (bind (statement fun tables hrun => ?_) readRow?)
    split at hrun <;> cases hrun
  | markCompleted id | markFailed id error retryAt | markDead id error => exact (amend id _).map _
  | recordProcessed | isProcessed | countByStatus | findDeadLetter | listDeadLetters
  | purgeArchivedBefore | countDeadLetters | countDeadLettersByType => exact query.map _
  | completeProcessed id => exact (transaction (query.bind fun _ => amend id _)).map _
  | cancel | deleteDeadLetter => exact map _ (query.bind fun count => pure _)
  | archive job lastError => exact (archive job lastError now).map _
  | restore id attempts => exact (restore id attempts now).map _
  | reclaimStuck age => exact absurd rfl (h age)

end Call.InCalendar

end DurableJobs.Store
