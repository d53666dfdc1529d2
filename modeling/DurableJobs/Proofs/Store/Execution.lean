import DurableJobs.Store.DeadLetters

/-!
# How calls run

A call is a monadic program over a session, and a session fails statements as it pleases. The lemmas
here run a program one statement at a time, so that what a call does can be read off by cases: on the
fault that is next, on what the statement answers. The one idea is in `transaction_cases`: whatever a
transaction answers, it has either done all that its body did or left the tables alone.
-/

set_option autoImplicit false

namespace DurableJobs.Store

variable {α β : Type}

namespace Call

theorem execute_bind (call : Call α) (next : α → Call β) (s : Session) :
    (call >>= next).execute s =
      match call.execute s with
      | (.ok a, s) => (next a).execute s
      | (.error e, s) => (.error e, s) := by
  simp only [Call.execute, ExceptT.run_bind]
  cases h : ExceptT.run call s with
  | mk answer after =>
    cases answer with
    | ok a => simp [bind, StateT.bind, h]
    | error e =>
      simp [bind, StateT.bind, h]
      rfl

/-- A program that answers has run both its parts. -/
theorem execute_bind_ok {call : Call α} {next : α → Call β} {s after : Session} {b : β}
    (h : (call >>= next).execute s = (.ok b, after)) :
    ∃ a mid, call.execute s = (.ok a, mid) ∧ (next a).execute mid = (.ok b, after) := by
  rw [execute_bind] at h
  cases hcall : call.execute s with
  | mk answer mid =>
    rw [hcall] at h
    cases answer with
    | ok a => exact ⟨a, mid, rfl, h⟩
    | error e => cases h

theorem execute_bind_eq_ok {call : Call α} {next : α → Call β} {s after : Session} {b : β} :
    (call >>= next).execute s = (.ok b, after) ↔
      ∃ a mid, call.execute s = (.ok a, mid) ∧ (next a).execute mid = (.ok b, after) := by
  refine ⟨execute_bind_ok, ?_⟩
  rintro ⟨a, mid, hcall, hnext⟩
  rw [execute_bind, hcall]
  exact hnext

theorem execute_pure_eq_ok {a b : α} {s after : Session} :
    (pure a : Call α).execute s = (.ok b, after) ↔ b = a ∧ after = s := by
  change (Except.ok a, s) = (Except.ok b, after) ↔ _
  rw [Prod.mk.injEq, Except.ok.injEq]
  exact and_congr eq_comm eq_comm

theorem execute_map (f : α → β) (call : Call α) (s : Session) :
    (f <$> call).execute s = ((call.execute s).1.map f, (call.execute s).2) := by
  rw [← bind_pure_comp, execute_bind]
  cases h : call.execute s with
  | mk answer after => cases answer <;> rfl

end Call

theorem execute_statement (table : Table) (run : Tables → Except StoreError (α × Tables)) (s : Session) :
    (statement table run).execute s =
      if s.faults.headD false || !s.tables.has table then
        (.error .database, ⟨s.tables, s.faults.tail⟩)
      else
        match run s.tables with
        | .ok (answer, tables) => (.ok answer, ⟨tables, s.faults.tail⟩)
        | .error error => (.error error, ⟨s.tables, s.faults.tail⟩) := rfl

/-- A statement is failed and does nothing, or it does what it runs. -/
theorem statement_cases (table : Table) (run : Tables → Except StoreError (α × Tables)) (s : Session) :
    (∃ e after, (statement table run).execute s = (.error e, after) ∧ after.tables = s.tables) ∨
    (statement table run).execute s =
      match run s.tables with
      | .ok (answer, tables) => (.ok answer, ⟨tables, s.faults.tail⟩)
      | .error error => (.error error, ⟨s.tables, s.faults.tail⟩) := by
  rw [execute_statement]
  split
  · exact Or.inl ⟨_, _, rfl, rfl⟩
  · exact Or.inr rfl

/-- A statement that answers has done what it runs. -/
theorem statement_ok {table : Table} {run : Tables → Except StoreError (α × Tables)} {s after : Session}
    {a : α} (h : (statement table run).execute s = (.ok a, after)) :
    run s.tables = .ok (a, after.tables) := by
  rcases statement_cases table run s with ⟨e, after', herr, -⟩ | hrun
  · rw [herr] at h
    cases h
  · rw [hrun] at h
    cases hr : run s.tables with
    | error e =>
      rw [hr] at h
      cases h
    | ok result =>
      rw [hr] at h
      cases h
      rfl

/-- **A statement answers** when the database does not fail it, its table is there, and what it runs
answers. -/
theorem execute_statement_eq_ok {table : Table} {run : Tables → Except StoreError (α × Tables)}
    {s after : Session} {a : α} :
    (statement table run).execute s = (.ok a, after) ↔
      s.faults.headD false = false ∧ s.tables.has table = true ∧
        run s.tables = .ok (a, after.tables) ∧ after.faults = s.faults.tail := by
  obtain ⟨tables, faults⟩ := after
  rw [execute_statement]
  cases s.faults.headD false <;> cases s.tables.has table <;> simp
  rcases run s.tables with error | ⟨answer, written⟩
  · simp
  · simp only [Prod.mk.injEq, Except.ok.injEq, Session.mk.injEq, and_assoc, eq_comm]

theorem execute_handshake (s : Session) :
    handshake.execute s =
      if s.faults.headD false then (.error .database, ⟨s.tables, s.faults.tail⟩)
      else (.ok (), ⟨s.tables, s.faults.tail⟩) := rfl

theorem execute_handshake_eq_ok {s after : Session} {u : Unit} :
    handshake.execute s = (.ok u, after) ↔
      s.faults.headD false = false ∧ after = ⟨s.tables, s.faults.tail⟩ := by
  rw [execute_handshake]
  cases s.faults.headD false <;> simp [eq_comm]

/-- Giving up never answers. -/
theorem execute_giveUp_ne_ok {error : StoreError} {s after : Session} {a : α} :
    (giveUp error).execute s ≠ (.ok a, after) := by
  intro h
  obtain ⟨_, mid, -, hthrow⟩ := Call.execute_bind_ok h
  cases hthrow

/-- Reading a row leaves the session alone. -/
theorem execute_readRow (row : Row) (s : Session) :
    (readRow row).execute s = (row.read?.elim (.error .database) .ok, s) := by
  unfold readRow
  cases row.read? <;> rfl

theorem execute_transaction (body : Call α) (s : Session) :
    (transaction body).execute s =
      match ((do handshake; let a ← body; handshake; return a) : Call α).execute s with
      | (.ok answer, after) => (.ok answer, after)
      | (.error error, after) => (.error error, ⟨s.tables, after.faults⟩) := rfl

/-- **A transaction answers** when it begins, its body answers and the commit is not failed. -/
theorem execute_transaction_eq_ok {body : Call α} {s after : Session} {a : α} :
    (transaction body).execute s = (.ok a, after) ↔
      s.faults.headD false = false ∧
        ∃ mid, body.execute ⟨s.tables, s.faults.tail⟩ = (.ok a, mid) ∧
          mid.faults.headD false = false ∧ after = ⟨mid.tables, mid.faults.tail⟩ := by
  have hattempt : (transaction body).execute s = (.ok a, after) ↔
      ((do handshake; let a ← body; handshake; return a) : Call α).execute s = (.ok a, after) := by
    rw [execute_transaction]
    generalize ((do handshake; let a ← body; handshake; return a) : Call α).execute s = outcome
    obtain ⟨answer | error, last⟩ := outcome <;> simp
  rw [hattempt]
  simp only [Call.execute_bind_eq_ok, execute_handshake_eq_ok, Call.execute_pure_eq_ok]
  constructor
  · rintro ⟨_, _, ⟨hbegin, rfl⟩, a', mid, hbody, _, last, ⟨hcommit, rfl⟩, rfl, rfl⟩
    exact ⟨hbegin, mid, hbody, hcommit, rfl⟩
  · rintro ⟨hbegin, mid, hbody, hcommit, rfl⟩
    exact ⟨(), _, ⟨hbegin, rfl⟩, a, mid, hbody, (), _, ⟨hcommit, rfl⟩, rfl, rfl⟩

/-- A transaction keeps all that its body did when it answers, and nothing when it fails. -/
theorem transaction_cases (body : Call α) (s : Session) :
    (∃ e after, (transaction body).execute s = (.error e, after) ∧ after.tables = s.tables) ∨
    ∃ a faults after, body.execute ⟨s.tables, faults⟩ = (.ok a, after) ∧
      ((transaction body).execute s).1 = .ok a ∧
      ((transaction body).execute s).2.tables = after.tables := by
  rw [execute_transaction]
  simp only [Call.execute_bind, execute_handshake]
  cases hbegin : s.faults.headD false with
  | true => exact Or.inl ⟨_, _, rfl, rfl⟩
  | false =>
    simp only [Bool.false_eq_true, if_false]
    cases hbody : body.execute ⟨s.tables, s.faults.tail⟩ with
    | mk answer after =>
      cases answer with
      | error e => exact Or.inl ⟨_, _, rfl, rfl⟩
      | ok a =>
        cases hcommit : after.faults.headD false with
        | true =>
          simp only [hcommit, if_true]
          exact Or.inl ⟨_, _, rfl, rfl⟩
        | false =>
          simp only [hcommit, Bool.false_eq_true, if_false]
          exact Or.inr ⟨a, _, after, hbody, rfl, rfl⟩

end DurableJobs.Store
