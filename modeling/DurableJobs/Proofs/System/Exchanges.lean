import DurableJobs.Proofs.System.World

/-!
# What the store sees of the system

To the store a run of the system is a run of requests: the turns that ask it for nothing are left out, and
who asked is forgotten (`store_run`). So every law of the runs of the store is a law of the system.
-/

set_option autoImplicit false

namespace DurableJobs

open Store (Tables Operation)

variable {σ : Type}

/-- What the store sees of a turn. -/
def Occurrence.exchange? (e : Occurrence σ) : Option Store.Exchange :=
  e.operation?.map fun operation => ⟨e.before.tables, ⟨operation, e.now, e.act.faults⟩⟩

/-- What the store sees of a history. -/
def exchanges (history : List (Occurrence σ)) : List Store.Exchange :=
  history.filterMap (·.exchange?)

namespace Occurrence

variable {e : Occurrence σ}

/-- A turn that asks the store for something is an exchange, in which the store answers and changes as it
does in the turn. -/
theorem exchange?_spec {operation : Operation} (hop : e.operation? = some operation) :
    ∃ x : Store.Exchange, e.exchange? = some x ∧ x.before = e.before.tables ∧
      x.act.operation = operation ∧ x.act.now = e.now ∧ e.reply? = some x.reply ∧
      e.after.tables = x.after := by
  refine ⟨⟨e.before.tables, ⟨operation, e.now, e.act.faults⟩⟩, ?_, rfl, rfl, rfl, ?_, ?_⟩
  · rw [exchange?, hop, Option.map_some]
  · rw [reply?, hop]
    rfl
  · rw [after_tables, hop]
    rfl

theorem tables_of_silence (hop : e.operation? = none) :
    e.exchange? = none ∧ e.after.tables = e.before.tables := by
  rw [exchange?, after_tables, hop]
  exact ⟨rfl, rfl⟩

end Occurrence

/-- An exchange is seen in a turn. -/
theorem mem_exchanges {history : List (Occurrence σ)} {x : Store.Exchange} (h : x ∈ exchanges history) :
    ∃ e ∈ history, e.operation? = some x.act.operation ∧ x.before = e.before.tables ∧ x.act.now = e.now ∧
      e.after.tables = x.after := by
  obtain ⟨e, he, hx⟩ := List.mem_filterMap.mp h
  cases hop : e.operation? with
  | none =>
    rw [(Occurrence.tables_of_silence hop).1] at hx
    cases hx
  | some operation =>
    obtain ⟨x', hx', hbefore, hoperation, hnow, -, hafter⟩ := Occurrence.exchange?_spec hop
    cases hx'.symm.trans hx
    exact ⟨e, he, hop.trans (congrArg some hoperation.symm), hbefore, hnow, hafter⟩

/-- **The store runs alone**: what it sees of a run of the system is a run of its own, to the same
tables. -/
theorem store_run (w : World σ) (turns : List (Turn σ)) :
    ∃ requests, w.tables.exchanges requests = exchanges (w.occurrences turns) ∧
      w.tables.afterAll requests = (w.actAll turns).tables := by
  refine @Run.invariant _ _ World.act (fun _ => True) (fun history w' =>
    ∃ requests, w.tables.exchanges requests = exchanges history ∧
      w.tables.afterAll requests = w'.tables) _ ⟨[], rfl, rfl⟩ ?_ turns fun _ _ => trivial
  rintro history w' turn - ⟨requests, hhistory, htables⟩
  let e : Occurrence σ := ⟨w', turn⟩
  change ∃ requests, _ = exchanges (history ++ [e]) ∧ _ = e.after.tables
  rw [exchanges, Run.filterMap_snoc]
  cases hop : e.operation? with
  | none =>
    obtain ⟨hx, hsame⟩ := Occurrence.tables_of_silence hop
    rw [hx, hsame, Option.toList_none, List.append_nil]
    exact ⟨requests, hhistory, htables⟩
  | some operation =>
    obtain ⟨x, hx, hbefore, -, -, -, hafter⟩ := Occurrence.exchange?_spec hop
    have hmet : Run.final Tables.after w.tables requests = x.before := htables.trans hbefore.symm
    refine ⟨requests ++ [x.act], ?_, ?_⟩
    · rw [Tables.exchanges, Run.history_append, hmet, ← Tables.exchanges, hhistory, hx]
      rfl
    · rw [Tables.afterAll, Run.final_append, hmet, hafter]
      rfl

end DurableJobs
