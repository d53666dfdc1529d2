import DurableJobs.Proofs.Store.Frame
import DurableJobs.Proofs.Store.Lineage
import DurableJobs.Proofs.System.Exchanges
import DurableJobs.Proofs.System.Provenance

/-!
# Chains of one piece of work

A job that is given up becomes a dead letter, which somebody makes a new job of, which may be given up
again. Whatever happens on the way, the rows and letters of such a chain are about one and the same piece
of work: what the enqueue at its start was given.

What the store does is in `Lineage`. Here it is carried over to the system, where most letters are
written by tasks from the copies they were started with (`Chained.tasks`).
-/

set_option autoImplicit false

namespace DurableJobs

open Store (Tables Operation Reply Told)

variable {σ : Type}

/-! ## Lineage in the system -/

variable {history : List (Occurrence σ)} {e : Occurrence σ}

/-- Rows, letters and the copies that the tasks hold have the work of their origin. -/
structure Chained (history : List (Occurrence σ)) (w : World σ) : Prop where
  lineage : Store.Lineage (exchanges history) w.tables
  tasks : ∀ k n task, w.task? k n = some task → Told (exchanges history) task.job

theorem Chained.start : Chained [] (World.empty : World σ) where
  lineage := Store.Lineage.start
  tasks _ _ _ h := nomatch h

theorem told_snoc_of_told {job : Job} (h : Told (exchanges history) job) :
    Told (exchanges (history ++ [e])) job := by
  rw [exchanges, Run.filterMap_snoc]
  obtain ⟨x, hx, htold⟩ := h
  exact ⟨x, List.mem_append_left _ hx, htold⟩

namespace Chained

theorem tasks_next (h : Chained history e.before) {k n : Nat} {task : Task}
    (hafter : e.after.task? k n = some task) : Told (exchanges (history ++ [e])) task.job := by
  have hfate := e.taskFate k n
  rw [hafter] at hfate
  generalize hbefore : e.before.task? k n = task? at hfate
  cases hfate with
  | kept => exact told_snoc_of_told (h.tasks k n task hbefore)
  | rested => exact told_snoc_of_told (h.tasks k n task hbefore)
  | moved p old phase => exact told_snoc_of_told (h.tasks k n old hbefore)
  | spawned p job haction hp hnew hreply =>
    cases hop : e.operation? with
    | none =>
      rw [Occurrence.reply?, hop] at hreply
      cases hreply
    | some operation =>
      obtain ⟨x, hx, -, -, -, hanswer, -⟩ := Occurrence.exchange?_spec hop
      rw [exchanges, Run.filterMap_snoc, hx]
      refine ⟨x, List.mem_append_right _ (List.mem_singleton.mpr rfl), ?_⟩
      rw [Store.Exchange.told?, ← Option.some.inj (hreply.symm.trans hanswer)]
      rfl

/-- Tasks archive the copies that they hold. -/
theorem archives_told (h : Chained history e.before)
    (hasks : ∀ job lastError, e.act.action = .ask (.archive job lastError) → Told (exchanges history) job)
    {job : Job} {lastError : String} (hop : e.operation? = some (.archive job lastError)) :
    Told (exchanges history) job := by
  rcases e.asked hop with haction | ⟨k, n, task, hsteps, htask⟩ | hroutine
  · exact hasks job lastError haction
  · obtain ⟨-, rfl⟩ := Task.condemns_of_operation htask
    exact h.tasks k n task hsteps.2
  · cases hroutine

theorem next (h : Chained history e.before)
    (hasks : ∀ job lastError, e.act.action = .ask (.archive job lastError) →
      Told (exchanges history) job) : Chained (history ++ [e]) e.after where
  lineage := by
    rw [exchanges, Run.filterMap_snoc]
    cases hop : e.operation? with
    | none =>
      obtain ⟨hx, htables⟩ := Occurrence.tables_of_silence hop
      rw [hx, htables, Option.toList_none, List.append_nil]
      exact h.lineage
    | some operation =>
      obtain ⟨x, hx, hbefore, hoperation, -, -, htables⟩ := Occurrence.exchange?_spec hop
      rw [hx, htables]
      refine Store.Lineage.next (hbefore ▸ h.lineage) fun job lastError harchive => ?_
      exact h.archives_told hasks (hop.trans (congrArg some (hoperation.symm.trans harchive)))
  tasks _ _ _ := h.tasks_next

end Chained

/-- Whoever is no processor archives jobs as the store has answered them. -/
def ArchivesTold (turns : List (Turn σ)) : Prop :=
  ∀ earlier e later, World.empty.occurrences turns = earlier ++ e :: later → ∀ job lastError,
    e.act.action = .ask (.archive job lastError) → Told (exchanges earlier) job

theorem chained_run (turns : List (Turn σ)) (hturns : ArchivesTold turns) :
    Chained (World.empty.occurrences turns) (World.empty.actAll turns) :=
  @Run.invariant_of_past _ _ World.act
    (fun earlier e => ∀ job lastError, e.act.action = .ask (.archive job lastError) →
      Told (exchanges earlier) job) _ _
    Chained.start (fun _ w turn hasks h => Chained.next (e := ⟨w, turn⟩) h hasks) turns hturns

/-- A live row is bound to its terms as long as it is there. -/
theorem bound_run {w : World σ} {id : Int} {terms : Option String × Int × Instant}
    (h : Store.Bound id terms w.tables) (turns : List (Turn σ)) :
    Store.Bound id terms (w.actAll turns).tables := by
  obtain ⟨requests, -, htables⟩ := store_run w turns
  rw [← htables]
  exact h.run requests

/-- What the dead letter queue asks for when it makes a letter a job again. -/
def Store.Operation.reprocess (policy : DeadLetterPolicy) (letterId : Int) : Operation :=
  .restore letterId policy.maxAttempts

theorem reprocess_call (policy : DeadLetterPolicy) (letterId : Int) (now : Instant) :
    (Operation.reprocess policy letterId).call now =
      Reply.job <$> DeadLetters.reprocess policy letterId now := rfl

/-- **Chains keep their work.** In every run in which jobs are archived as the store has answered them,
every live row and every dead letter has the type, the tenant and the payload that the enqueue was given
which it goes back to; a row keeps its key, its attempts and its time of creation as long as it is there;
what is made of a dead letter is a pending job, never tried, with the attempts of the policy; and an
operation that is addressed to an id leaves the rows of all other ids as they were. -/
theorem chains_keep_work (turns : List (Turn σ)) (hturns : ArchivesTold turns) :
    let history := exchanges (World.empty.occurrences turns)
    let tables := (World.empty.actAll turns).tables
    (∀ row ∈ tables.jobs, Store.originalWork history row.id = some row.work) ∧
    (∀ letter ∈ tables.deadLetters, Store.originalWork history letter.originalJobId = some letter.work) ∧
    (∀ first rest, turns = first ++ rest → ∀ row ∈ (World.empty.actAll first).tables.jobs,
      ∀ row' ∈ tables.jobs, row'.id = row.id → row'.terms = row.terms) ∧
    ∀ e ∈ World.empty.occurrences turns, ∀ operation, e.operation? = some operation →
      (∀ policy letterId job, operation = .reprocess policy letterId →
        e.reply? = some (.ok (.job job)) →
        (∃ row, e.after.tables.job? job.id = some row ∧ row.read? = some job) ∧
          job.attemptCount = 0 ∧ job.status = .pending ∧ job.maxAttempts = policy.maxAttempts) ∧
      ∀ address, operation.address? = some address →
        Tables.Elsewhere address e.before.tables e.after.tables := by
  intro history tables
  have hall := chained_run turns hturns
  refine ⟨fun row hrow => hall.lineage.rows row.id row (hall.lineage.ordered.job?_of_mem hrow),
    fun letter hletter => (hall.lineage.letters letter hletter).2, ?_, fun e he operation hop => ?_⟩
  · rintro first rest rfl row hrow row' hrow' hid
    have hbound := bound_run (Store.Bound.of_row (ordered_run first) hrow) rest
    rw [World.actAll, World.actAll, ← Run.final_append] at hbound
    refine hbound.kept row' ?_
    rw [← hid]
    exact hall.lineage.ordered.job?_of_mem hrow'
  · have ho : e.before.tables.Ordered := ordered_before he
    rcases e.tables_cases with ⟨hnone, -⟩ | ⟨operation', reply, hop', hreply, hchange⟩
    · rw [hnone] at hop
      cases hop
    · cases hop'.symm.trans hop
      refine ⟨fun policy letterId job hreprocess hjob => ?_, fun address => hchange.elsewhere⟩
      subst hreprocess
      rw [hreply] at hjob
      cases hjob
      exact hchange.restored_anew ho

def restoredOnce : Job :=
  { id := 2, tenantId := some "7", jobType := "a", payload := [1, 2], status := .pending,
    idempotencyKey := none, attemptCount := 0, maxAttempts := 2, lastError := none,
    runAt := Store.wholeSecond 2, startedAt := none, completedAt := none,
    createdAt := Store.wholeSecond 2, updatedAt := Store.wholeSecond 2 }

/-- A job panics in its only attempt and is archived by its task, made a job again, archived by somebody
who has looked it up, and made a job again. -/
def archivedTwice : List (Turn Unit) :=
  let policy : DeadLetterPolicy := { ProcessorConfig.standard.deadLetters with maxAttempts := 2 }
  [.quiet 0 (.launch ProcessorConfig.standard
    (Registry.empty.register "a" (.immediate fun _ _ s => (.panicked, s))) .standard ()),
   .quiet 0 (.ask (.enqueue ⟨"a", [1, 2], some "7", some "k", some 1, none⟩ Store.standardMaxAttempts)),
   .quiet 1 (.act 0 .claim),
   .quiet 1 (.act 0 (.step 0 0)),
   .quiet 1 (.act 0 (.step 0 0)),
   .quiet 1 (.act 0 (.step 0 0)),
   .quiet 1 (.act 0 (.step 0 0)),
   .quiet 2 (.ask (.reprocess policy 1)),
   .quiet 3 (.ask (.findJob 2)),
   .quiet 3 (.ask (.archive restoredOnce "no more")),
   .quiet 4 (.ask (.reprocess policy 2))]

theorem archivedTwice_told : ArchivesTold archivedTwice := by
  intro earlier e later hsplit job lastError haction
  obtain ⟨before, after, hturns, rfl, -, -⟩ := Run.history_split hsplit
  have hturn : archivedTwice[before.length]? = some e.act := by
    rw [hturns, List.getElem?_append_right (Nat.le_refl _), Nat.sub_self]
    rfl
  -- one turn asks to archive, so the history is cut there
  have honly : ∀ n < 11, archivedTwice[n]?.map (·.leavesConclusions) = some false → n = 9 := by decide
  have hlength : before.length = 9 := by
    refine honly _ (List.getElem?_eq_some_iff.mp hturn).1 ?_
    rw [hturn, Option.map_some, Turn.leavesConclusions, haction]
    rfl
  have hbefore : before = archivedTwice.take 9 := by rw [hturns, ← hlength, List.take_left]
  have hact : Turn.quiet 3 (.ask (.archive restoredOnce "no more")) = e.act := by
    rw [hlength] at hturn
    exact Option.some.inj hturn
  rw [← hact] at haction
  cases haction
  rw [hbefore]
  decide +kernel

theorem chains_keep_work_archivedTwice :
    ArchivesTold archivedTwice ∧
    (World.empty.actAll archivedTwice).tables.jobs.map (·.id) = [3] ∧
    (World.empty.actAll archivedTwice).tables.lastDeadLetterId = 2 ∧
    Store.originalWork (exchanges (World.empty.occurrences archivedTwice)) 3 =
      some ⟨"a", some "7", [1, 2]⟩ ∧
    ∀ row ∈ (World.empty.actAll archivedTwice).tables.jobs, row.work = ⟨"a", some "7", [1, 2]⟩ := by
  have horigin : Store.originalWork (exchanges (World.empty.occurrences archivedTwice)) 3 =
      some ⟨"a", some "7", [1, 2]⟩ := by decide +kernel
  have hids : (World.empty.actAll archivedTwice).tables.jobs.map (·.id) = [3] := by decide +kernel
  refine ⟨archivedTwice_told, hids, by decide +kernel, horigin, fun row hrow => ?_⟩
  have hwork := (chains_keep_work archivedTwice archivedTwice_told).1 row hrow
  have hid : row.id ∈ [3] := hids ▸ List.mem_map_of_mem hrow
  rw [List.mem_singleton.mp hid, horigin] at hwork
  exact (Option.some.inj hwork).symm

end DurableJobs
