import Mathlib.Data.List.Pairwise
import DurableJobs.Proofs.System.Closed

/-!
# Claims of the system

A claim hands a job to a processor, and with it the number of an attempt. No two claims of a job have
the same one, since a row counts on from claim to claim; so an attempt stands for a claim, and for the
task that was started with it, in all that is to be counted (`ToldApart`).
-/

set_option autoImplicit false

namespace DurableJobs

open Store (Operation Reply)

variable {σ : Type}

/-! ## Claims and the jobs they answer -/

namespace Occurrence

/-- The job that a claim answers. -/
def claimed? (e : Occurrence σ) : Option Job :=
  match e.operation?, e.reply? with
  | some .claimNext, some (.ok (.claimed job?)) => job?
  | _, _ => none

end Occurrence

def claimedJobs (history : List (Occurrence σ)) : List Job := history.filterMap (·.claimed?)

theorem claimedJobs_snoc (history : List (Occurrence σ)) (e : Occurrence σ) :
    claimedJobs (history ++ [e]) = claimedJobs history ++ e.claimed?.toList :=
  Run.filterMap_snoc _ history e

variable {history : List (Occurrence σ)} {e : Occurrence σ}

/-- A claim answers a job as it leaves its row, which it has met and which was due. -/
theorem Occurrence.claimed?_row (ho : e.before.tables.Ordered) {job : Job} (h : e.claimed? = some job) :
    ∃ row, e.before.tables.job? job.id = some row ∧ row.isDue e.now = true ∧
      e.after.tables.job? job.id = some (row.claimed e.now) ∧ (row.claimed e.now).read? = some job := by
  unfold Occurrence.claimed? at h
  split at h
  · next job? hop hreply =>
    subst h
    exact (Occurrence.change hop hreply).claimed_row ho
  · cases h

/-- A claim that answers a job has met its row, due, and counts one attempt more. -/
theorem Occurrence.claimed?_spec (ho : e.before.tables.Ordered) {job : Job} (h : e.claimed? = some job) :
    ∃ row, e.before.tables.job? job.id = some row ∧ row.isDue e.now = true ∧
      e.after.tables.job? job.id = some (row.claimed e.now) ∧
      job.attemptCount = row.attemptCount + 1 ∧ job.maxAttempts = row.maxAttempts := by
  obtain ⟨row, hbefore, hdue, hafter, hread⟩ := Occurrence.claimed?_row ho h
  have hlimit : job.maxAttempts = (row.claimed e.now).maxAttempts :=
    Store.Row.read?_maxAttempts hread
  exact ⟨row, hbefore, hdue, hafter, (Store.Row.read?_spec hread).2, hlimit⟩

theorem Occurrence.claimed?_standing (ho : e.before.tables.Ordered) {job : Job}
    (h : e.claimed? = some job) :
    e.before.tables.standing job.id = some Status.pending.name ∧
      e.after.tables.standing job.id = some Status.processing.name := by
  obtain ⟨row, hbefore, hdue, hafter, -⟩ := Occurrence.claimed?_spec ho h
  rw [Store.Tables.standing, Store.Tables.standing, hbefore, hafter]
  exact ⟨congrArg some (beq_iff_eq.mp (Store.Row.pending_of_isDue hdue)), rfl⟩

theorem Occurrence.claimed?_of_spawned {k : Nat} {p : Processor σ} {job : Job}
    (haction : e.act.action = .act k .claim) (hp : e.before.processors[k]? = some p)
    (hreply : e.reply? = some (.ok (.claimed (some job)))) : e.claimed? = some job := by
  have hop : e.operation? = some .claimNext := by
    obtain ⟨operation, hop, -⟩ := Option.map_eq_some_iff.mp hreply
    have hclaim := hop
    rw [Occurrence.operation?, haction] at hclaim
    simp only [hp, Option.bind_some, Processor.operation?] at hclaim
    split at hclaim <;> cases hclaim
    exact hop
  rw [Occurrence.claimed?, hop, hreply]

/-! ## Attempts are told apart -/

/-- The row of an id behind an operation goes on from the row before it, or is new. -/
theorem Store.Fate.goes_on {now : Instant} {last id : Int} {operation : Operation}
    {reply : Except StoreError Reply} {row? : Option Store.Row} {row' : Store.Row}
    (h : Store.Fate now last id operation reply row? (some row')) :
    (∃ row, row? = some row ∧ row.attemptCount ≤ row'.attemptCount ∧
      row'.maxAttempts = row.maxAttempts) ∨ (last < id ∧ row'.attemptCount = 0) := by
  generalize hafter : some row' = after? at h
  cases h with
  | kept =>
    subst hafter
    exact Or.inl ⟨row', rfl, Int.le_refl _, rfl⟩
  | created =>
    cases hafter
    exact Or.inr ⟨by omega, rfl⟩
  | claimed row | reclaimed row =>
    cases hafter
    exact Or.inl ⟨row, rfl, Int.le_of_lt (Int.lt_succ _), rfl⟩
  | completed row | rescheduled row | buried row | cancelled row =>
    cases hafter
    exact Or.inl ⟨row, rfl, Int.le_refl _, rfl⟩
  | archived => cases hafter

theorem Occurrence.row_goes_on (ho : e.before.tables.Ordered) {id : Int} {row' : Store.Row}
    (hafter : e.after.tables.job? id = some row') :
    (∃ row, e.before.tables.job? id = some row ∧ row.attemptCount ≤ row'.attemptCount ∧
      row'.maxAttempts = row.maxAttempts) ∨
      (e.before.tables.lastJobId < id ∧ row'.attemptCount = 0) := by
  rcases e.tables_cases with ⟨-, hsame⟩ | ⟨operation, reply, -, -, hchange⟩
  · rw [hsame] at hafter
    exact Or.inl ⟨row', hafter, Int.le_refl _, rfl⟩
  · have hfate := hchange.fate ho id
    rw [hafter] at hfate
    exact hfate.goes_on

theorem Occurrence.lastJobId_le (e : Occurrence σ) :
    e.before.tables.lastJobId ≤ e.after.tables.lastJobId := by
  rcases e.tables_cases with ⟨-, hsame⟩ | ⟨_, _, -, -, hchange⟩
  · exact Int.le_of_eq (congrArg Store.Tables.lastJobId hsame.symm)
  · exact hchange.lastJobId_le

/-- Two claims of one job differ in their attempts, and agree in the greatest. -/
def Job.Precedes (a b : Job) : Prop :=
  a.id = b.id → a.attemptCount < b.attemptCount ∧ a.maxAttempts = b.maxAttempts

/-- Claims of a job are told apart by their attempts, and so are its tasks. -/
structure ToldApart (history : List (Occurrence σ)) (w : World σ) : Prop where
  ordered : w.tables.Ordered
  tried : ∀ id row, w.tables.job? id = some row → 0 ≤ row.attemptCount
  handedOut : ∀ job ∈ claimedJobs history, job.id ≤ w.tables.lastJobId
  positive : ∀ job ∈ claimedJobs history, 1 ≤ job.attemptCount
  fenced : ∀ job ∈ claimedJobs history, ∀ row, w.tables.job? job.id = some row →
    job.attemptCount ≤ row.attemptCount ∧ job.maxAttempts = row.maxAttempts
  rising : (claimedJobs history).Pairwise Job.Precedes
  claimed : ∀ k n task, w.task? k n = some task → task.job ∈ claimedJobs history
  alone : ∀ k n task k' n' task', w.task? k n = some task → w.task? k' n' = some task' →
    task.job = task'.job → k = k' ∧ n = n'

theorem ToldApart.start : ToldApart [] (World.empty : World σ) where
  ordered := Store.Tables.empty_ordered
  tried _ _ h := nomatch h
  handedOut _ h := nomatch h
  positive _ h := nomatch h
  fenced _ h := nomatch h
  rising := List.Pairwise.nil
  claimed _ _ _ h := nomatch h
  alone _ _ _ _ _ _ h := nomatch h

namespace ToldApart

/-- What a claim answers is an attempt behind all that have been answered. -/
theorem precedes (h : ToldApart history e.before) {job : Job} (hjob : e.claimed? = some job) :
    ∀ old ∈ claimedJobs history, old.Precedes job := by
  intro old hold hid
  obtain ⟨row, hrow, -, -, hattempt, hlimit⟩ := Occurrence.claimed?_spec h.ordered hjob
  rw [← hid] at hrow
  obtain ⟨hcount, hmax⟩ := h.fenced old hold row hrow
  omega

theorem not_mem_of_claimed (h : ToldApart history e.before) {job : Job} (hjob : e.claimed? = some job) :
    job ∉ claimedJobs history := fun hmem =>
  Int.lt_irrefl _ (h.precedes hjob job hmem rfl).1

/-- A task behind a turn has been there before with its job, or starts with what has been claimed. -/
theorem task_before {k n : Nat} {task : Task} (hafter : e.after.task? k n = some task) :
    (∃ old, e.before.task? k n = some old ∧ old.job = task.job) ∨
      e.claimed? = some task.job ∧ ∃ p, e.act.action = .act k .claim ∧
        e.before.processors[k]? = some p ∧ n = p.nextTask := by
  have hfate := e.taskFate k n
  rw [hafter] at hfate
  generalize hbefore : e.before.task? k n = task? at hfate
  cases hfate with
  | kept | rested => exact Or.inl ⟨task, rfl, rfl⟩
  | moved _ old => exact Or.inl ⟨old, rfl, rfl⟩
  | spawned p job haction hp hnew hreply =>
    exact Or.inr ⟨Occurrence.claimed?_of_spawned haction hp hreply, p, haction, hp, hnew⟩

theorem mem_claimedJobs_snoc {job : Job} (h : job ∈ claimedJobs (history ++ [e])) :
    job ∈ claimedJobs history ∨ e.claimed? = some job := by
  rw [claimedJobs_snoc] at h
  exact (List.mem_append.mp h).imp_right Option.mem_toList.mp

theorem handedOut_next (h : ToldApart history e.before) {job : Job}
    (hjob : job ∈ claimedJobs (history ++ [e])) : job.id ≤ e.after.tables.lastJobId := by
  refine Int.le_trans ?_ e.lastJobId_le
  rcases mem_claimedJobs_snoc hjob with hold | hnew
  · exact h.handedOut job hold
  · obtain ⟨row, hrow, -⟩ := Occurrence.claimed?_spec h.ordered hnew
    obtain ⟨hlive, hid⟩ := Store.Tables.mem_of_job? hrow
    exact hid ▸ h.ordered.handedOut row hlive

theorem positive_next (h : ToldApart history e.before) {job : Job}
    (hjob : job ∈ claimedJobs (history ++ [e])) : 1 ≤ job.attemptCount := by
  rcases mem_claimedJobs_snoc hjob with hold | hnew
  · exact h.positive job hold
  · obtain ⟨row, hrow, -, -, hattempt, -⟩ := Occurrence.claimed?_spec h.ordered hnew
    have htried := h.tried job.id row hrow
    omega

theorem fenced_next (h : ToldApart history e.before) {job : Job} {row' : Store.Row}
    (hjob : job ∈ claimedJobs (history ++ [e])) (hafter : e.after.tables.job? job.id = some row') :
    job.attemptCount ≤ row'.attemptCount ∧ job.maxAttempts = row'.maxAttempts := by
  rcases mem_claimedJobs_snoc hjob with hold | hnew
  · have hid := h.handedOut job hold
    rcases Occurrence.row_goes_on h.ordered hafter with ⟨row, hrow, hcount, hmax⟩ | ⟨hlater, -⟩
    · obtain ⟨hattempt, hlimit⟩ := h.fenced job hold row hrow
      omega
    · omega
  · obtain ⟨row, -, -, hclaimed, hattempt, hlimit⟩ := Occurrence.claimed?_spec h.ordered hnew
    rw [hclaimed] at hafter
    cases hafter
    exact ⟨Int.le_of_eq hattempt, hlimit⟩

/-- Two old tasks have been told apart, and the job of a new one is none that has been claimed. -/
theorem alone_next (h : ToldApart history e.before) {k n k' n' : Nat} {task task' : Task}
    (hafter : e.after.task? k n = some task) (hafter' : e.after.task? k' n' = some task')
    (hjob : task.job = task'.job) : k = k' ∧ n = n' := by
  rcases task_before hafter with ⟨old, hold, hsame⟩ | ⟨hnew, p, haction, hp, hn⟩ <;>
    rcases task_before hafter' with ⟨old', hold', hsame'⟩ | ⟨hnew', p', haction', hp', hn'⟩
  · exact h.alone k n old k' n' old' hold hold' (hsame.trans (hjob.trans hsame'.symm))
  · refine absurd ?_ (h.not_mem_of_claimed hnew')
    exact hjob ▸ hsame ▸ h.claimed k n old hold
  · refine absurd ?_ (h.not_mem_of_claimed hnew)
    exact hjob ▸ hsame' ▸ h.claimed k' n' old' hold'
  · cases haction.symm.trans haction'
    cases hp.symm.trans hp'
    exact ⟨rfl, hn.trans hn'.symm⟩

theorem next (h : ToldApart history e.before) : ToldApart (history ++ [e]) e.after where
  ordered := e.ordered h.ordered
  tried id row' hafter := by
    rcases Occurrence.row_goes_on h.ordered hafter with ⟨row, hrow, hcount, -⟩ | ⟨-, hzero⟩
    · exact Int.le_trans (h.tried id row hrow) hcount
    · omega
  handedOut _ := h.handedOut_next
  positive _ := h.positive_next
  fenced _ hjob _ := h.fenced_next hjob
  rising := by
    rw [claimedJobs_snoc]
    refine List.pairwise_append.mpr ⟨h.rising, ?_, fun old hold job hjob => ?_⟩
    · cases e.claimed? <;> simp
    · exact h.precedes (Option.mem_toList.mp hjob) old hold
  claimed k n task hafter := by
    rw [claimedJobs_snoc]
    rcases task_before hafter with ⟨old, hold, hjob⟩ | ⟨hnew, -⟩
    · exact List.mem_append_left _ (hjob ▸ h.claimed k n old hold)
    · exact List.mem_append_right _ (Option.mem_toList.mpr hnew)
  alone _ _ _ _ _ _ := h.alone_next

theorem run (turns : List (Turn σ)) :
    ToldApart (World.empty.occurrences turns) (World.empty.actAll turns) :=
  Run.invariant start (fun _ w turn _ h => next (e := ⟨w, turn⟩) h) turns fun _ _ => trivial

variable {w : World σ}

theorem precedes_or (h : ToldApart history w) {a b : Job} (ha : a ∈ claimedJobs history)
    (hb : b ∈ claimedJobs history) (hne : a ≠ b) : a.Precedes b ∨ b.Precedes a := by
  have heither : (claimedJobs history).Pairwise fun a b => a.Precedes b ∨ b.Precedes a :=
    h.rising.imp Or.inl
  have : Std.Symm fun a b : Job => a.Precedes b ∨ b.Precedes a := ⟨fun _ _ => Or.symm⟩
  exact heither.forall ha hb hne

/-- Of one job there is one claim for each attempt. -/
theorem eq_of_attempt (h : ToldApart history w) {a b : Job} (ha : a ∈ claimedJobs history)
    (hb : b ∈ claimedJobs history) (hid : a.id = b.id) (hattempt : a.attemptCount = b.attemptCount) :
    a = b := by
  by_contra hne
  rcases h.precedes_or ha hb hne with hless | hless
  · have := (hless hid).1
    omega
  · have := (hless hid.symm).1
    omega

theorem maxAttempts_eq (h : ToldApart history w) {a b : Job} (ha : a ∈ claimedJobs history)
    (hb : b ∈ claimedJobs history) (hid : a.id = b.id) : a.maxAttempts = b.maxAttempts := by
  by_cases hne : a = b
  · rw [hne]
  · rcases h.precedes_or ha hb hne with hless | hless
    · exact (hless hid).2
    · exact (hless hid.symm).2.symm

end ToldApart

end DurableJobs
