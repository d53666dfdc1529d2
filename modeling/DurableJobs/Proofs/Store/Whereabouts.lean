import Mathlib.Data.List.Basic
import DurableJobs.Proofs.Store.Rows

/-!
# Where jobs are

A job lives in the row of its id until it is archived, and then in a dead letter until that is made a
job again, deleted or purged. Nothing of it gets lost on the way and nothing is left behind twice, in
whatever order these operations come and whichever of them fail.

The argument is bookkeeping. The `Books` of an id count its live rows, its dead letters, how often it
was archived and how often a letter of it was taken away, and two sums hold in every run (`Balanced`):
live rows and archivings make one for an id that has been handed out, and letters and takings make the
archivings. An exchange moves one unit from one account to another, or none.
-/

set_option autoImplicit false

namespace DurableJobs.Store

/-! ## Accounts -/

namespace Tables

/-- How many live rows have an id. -/
def liveCount (tables : Tables) (id : Int) : Nat := tables.jobs.countP (·.id == id)

/-- How many dead letters a job has. -/
def letterCount (tables : Tables) (id : Int) : Nat :=
  tables.deadLetters.countP (·.originalJobId == id)

/-- How many live rows and dead letters there are. -/
def total (tables : Tables) : Nat := tables.jobs.length + tables.deadLetters.length

/-- Dead letters stand in the order of their own ids, all of which have been handed out. -/
structure Filed (tables : Tables) : Prop where
  sorted : tables.deadLetters.Pairwise fun a b => a.id < b.id
  handedOut : ∀ letter ∈ tables.deadLetters, letter.id ≤ tables.lastDeadLetterId

end Tables

namespace Operation

/-- The dead letters that an operation takes away when it is answered. -/
def takes : Operation → DeadLetter → Bool
  | restore id _, letter | deleteDeadLetter id, letter => letter.id == id
  | purgeArchivedBefore cutoff, letter => storedBefore letter.archivedAt cutoff
  | _, _ => false

/-- The counters that a caller gives are of the size that a job holds. -/
def fits : Operation → Bool
  | enqueue job defaultMaxAttempts => fitsCounter (job.maxAttempts.getD defaultMaxAttempts)
  | _ => true

/-- The id of the job that an answer hands out: of a new one, or of one made of a dead letter. -/
def handedOut? : Operation → Except StoreError Reply → Option Int
  | enqueue _ _, .ok (.job job) | restore _ _, .ok (.job job) => some job.id
  | _, _ => none

/-- The job that has been archived, as the answer says. -/
def archived? : Operation → Except StoreError Reply → Option Int
  | archive job _, .ok (.letter _) => some job.id
  | _, _ => none

/-- An operation that takes dead letters away, answered: a restore, a delete that answers that there
was one, or a purge. -/
def clears : Operation → Except StoreError Reply → Bool
  | restore _ _, .ok (.job _) | deleteDeadLetter _, .ok (.flag true)
  | purgeArchivedBefore _, .ok (.count _) => true
  | _, _ => false

/-- What an answer adds to the total of live rows and dead letters: one for a new job, and less by what
is deleted or purged. -/
def gain : Operation → Except StoreError Reply → Int
  | enqueue _ _, .ok (.job _) => 1
  | deleteDeadLetter _, .ok (.flag true) => -1
  | purgeArchivedBefore _, .ok (.count n) => -n
  | _, _ => 0

end Operation

namespace Exchange

def handedOut? (e : Exchange) : Option Int := e.act.operation.handedOut? e.reply

def archives (e : Exchange) (id : Int) : Bool := e.act.operation.archived? e.reply == some id

def spends (e : Exchange) (id : Int) : Bool :=
  e.act.operation.clears e.reply && e.before.deadLetters.any fun letter =>
    e.act.operation.takes letter && letter.originalJobId == id

end Exchange

/-- What there is of a job, and what has been done with it. -/
structure Books where
  live : Nat
  letters : Nat
  archived : Nat
  spent : Nat
  deriving DecidableEq, Repr

namespace Books

/-- One row, and never archived. -/
def working : Books := ⟨1, 0, 0, 0⟩

/-- Archived once, and one letter of it is there. -/
def shelved : Books := ⟨0, 1, 1, 0⟩

/-- Archived once, and its letter has been taken away once. -/
def gone : Books := ⟨0, 0, 1, 1⟩

end Books

def booksOf (history : List Exchange) (tables : Tables) (id : Int) : Books where
  live := tables.liveCount id
  letters := tables.letterCount id
  archived := history.countP (·.archives id)
  spent := history.countP (·.spends id)

/-! ## Counting in sorted lists -/

section Counting

variable {α : Type} {l : List α} {p q : α → Bool}

/-- Of sorted keys each occurs once at most. -/
theorem countP_key_le_one {key : α → Int} (h : l.Pairwise fun a b => key a < key b) (k : Int) :
    l.countP (key · == k) ≤ 1 := by
  induction l with
  | nil => exact Nat.zero_le _
  | cons a l ih =>
    obtain ⟨ha, hl⟩ := List.pairwise_cons.mp h
    by_cases hk : key a = k
    · have hrest : l.countP (key · == k) = 0 := by
        rw [List.countP_eq_zero]
        intro b hb
        have := ha b hb
        simp only [beq_iff_eq]
        omega
      rw [List.countP_cons, hrest]
      split <;> omega
    · rw [List.countP_cons_of_neg (by simpa using hk)]
      exact ih hl

theorem toNat_any_of_countP_le_one (h : l.countP p ≤ 1) : (l.any p).toNat = l.countP p := by
  cases hany : l.any p with
  | false =>
    have hnone : l.countP p = 0 := by simpa [List.countP_eq_zero] using hany
    rw [hnone]
    rfl
  | true =>
    have hsome : 0 < l.countP p := by simpa [List.countP_pos_iff] using hany
    change 1 = l.countP p
    omega

end Counting

/-! ## Answers that move nothing -/

theorem archived?_error (operation : Operation) (e : StoreError) :
    operation.archived? (.error e) = none := by
  cases operation <;> rfl

theorem archived?_of_looks {operation : Operation} (h : operation.looks = true)
    (reply : Except StoreError Reply) : operation.archived? reply = none := by
  cases operation <;> first | rfl | cases h

theorem clears_error (operation : Operation) (e : StoreError) :
    operation.clears (.error e) = false := by
  cases operation <;> rfl

theorem clears_of_looks {operation : Operation} (h : operation.looks = true)
    (reply : Except StoreError Reply) : operation.clears reply = false := by
  cases operation <;> first | rfl | cases h

/-! ## Live rows -/

namespace Tables

variable (tables : Tables)

theorem liveCount_insertJob {row : Int → Row} (hrow : ∀ n, (row n).id = n) (id : Int) :
    (tables.insertJob row).2.liveCount id =
      tables.liveCount id + (decide (id = tables.lastJobId + 1)).toNat := by
  simp only [liveCount, insertJob, List.countP_append, List.countP_singleton, hrow, beq_iff_eq]
  by_cases h : tables.lastJobId + 1 = id
  · simp [h]
  · simp [h, Ne.symm h]

theorem liveCount_updateJobs (picks : Row → Bool) {change : Row → Row}
    (hid : ∀ row, (change row).id = row.id) (id : Int) :
    (tables.updateJobs picks change).2.liveCount id = tables.liveCount id := by
  simp only [liveCount, updateJobs, List.countP_map]
  congr 1
  funext row
  simp only [Function.comp_apply]
  split
  · rw [hid]
  · rfl

theorem liveCount_deleteJob (id other : Int) :
    (tables.deleteJob id).2.liveCount other =
      if other = id then 0 else tables.liveCount other := by
  simp only [liveCount, deleteJob, List.countP_filter]
  split
  · next h =>
    rw [h, List.countP_eq_zero]
    simp
  · next h =>
    congr 1
    funext row
    by_cases hrow : row.id = other <;> simp [hrow, h]

theorem lastJobId_record (entry : LedgerEntry) :
    (tables.record entry).lastJobId = tables.lastJobId := by
  unfold record
  split <;> rfl

theorem liveCount_record (entry : LedgerEntry) (id : Int) :
    (tables.record entry).liveCount id = tables.liveCount id := by
  unfold record
  split <;> rfl

variable {tables}

/-- An id that names a row names one row. -/
theorem Ordered.liveCount_of_live (h : tables.Ordered) {id : Int} (live : (tables.job? id).isSome) :
    tables.liveCount id = 1 := by
  have hle : tables.liveCount id ≤ 1 := countP_key_le_one h.sorted id
  obtain ⟨row, hrow⟩ := Option.isSome_iff_exists.mp live
  obtain ⟨hmem, hid⟩ := mem_of_job? hrow
  have hpos : 0 < tables.liveCount id := List.countP_pos_iff.mpr ⟨row, hmem, by simp [hid]⟩
  omega

end Tables

variable {now : Instant} {tables after : Tables} {operation : Operation}
  {reply : Except StoreError Reply}

/-- The row that is put in comes with the id behind the last one. -/
theorem Tables.liveCount_insert_fresh (tables : Tables) (job : NewJob) (attempts : Int) (now : Instant)
    (id : Int) :
    (tables.insertJob (Row.fresh job attempts now)).2.liveCount id =
      tables.liveCount id +
        (decide (tables.lastJobId < id ∧ id ≤ tables.lastJobId + 1)).toNat := by
  have hnew : decide (id = tables.lastJobId + 1) =
      decide (tables.lastJobId < id ∧ id ≤ tables.lastJobId + 1) := by
    rw [decide_eq_decide]
    omega
  rw [tables.liveCount_insertJob (fun _ => rfl), hnew]

/-- The only row of an id goes. -/
theorem Tables.Ordered.liveCount_deleteJob (ho : tables.Ordered) {other : Int}
    (live : (tables.job? other).isSome) (id : Int) :
    (tables.deleteJob other).2.liveCount id + (some other == some id).toNat = tables.liveCount id := by
  rw [Tables.liveCount_deleteJob]
  by_cases hid : id = other
  · rw [if_pos hid, hid, ho.liveCount_of_live live, beq_self_eq_true]
    rfl
  · have hother : (some other == some id) = false :=
      beq_eq_false_iff_ne.mpr fun heq => hid (Option.some.inj heq).symm
    rw [if_neg hid, hother]
    rfl

/-- A row comes with its id, and goes when its job is archived. -/
theorem Change.liveCount (h : Change now tables operation reply after) (ho : tables.Ordered) (id : Int) :
    after.liveCount id + (operation.archived? reply == some id).toNat =
      tables.liveCount id + (decide (tables.lastJobId < id ∧ id ≤ after.lastJobId)).toNat := by
  have hold : decide (tables.lastJobId < id ∧ id ≤ tables.lastJobId) = false :=
    decide_eq_false (by omega)
  -- most operations hand out no id and archive nothing
  have plain : ∀ {operation : Operation} {reply : Except StoreError Reply} {after : Tables},
      after.lastJobId = tables.lastJobId → operation.archived? reply = none →
      after.liveCount id = tables.liveCount id →
      after.liveCount id + (operation.archived? reply == some id).toNat =
        tables.liveCount id + (decide (tables.lastJobId < id ∧ id ≤ after.lastJobId)).toNat := by
    intro operation reply after hlast harchived hlive
    rw [hlast, harchived, hlive, hold]
    rfl
  have updated : ∀ (tables : Tables) (picks : Row → Bool) (change : Row → Row),
      (∀ row, (change row).id = row.id) →
      (tables.updateJobs picks change).2.liveCount id = tables.liveCount id :=
    fun tables picks _ hid => tables.liveCount_updateJobs picks hid id
  cases h with
  | failed _ error => exact plain rfl (archived?_error _ error) rfl
  | looked _ _ hlooks => exact plain rfl (archived?_of_looks hlooks _) rfl
  | idle | discarded | purged => exact plain rfl rfl rfl
  | enqueued job attempts => exact tables.liveCount_insert_fresh job attempts now id
  | restored _ attempts letter => exact tables.liveCount_insert_fresh (jobOfLetter letter) attempts now id
  | claimed => exact plain rfl rfl (updated _ _ _ fun _ => rfl)
  | completed => exact plain rfl rfl (updated _ _ _ fun _ => rfl)
  | rescheduled => exact plain rfl rfl (updated _ _ _ fun _ => rfl)
  | buried => exact plain rfl rfl (updated _ _ _ fun _ => rfl)
  | reclaimed => exact plain rfl rfl (updated _ _ _ fun _ => rfl)
  | cancelled => exact plain rfl rfl (updated _ _ _ fun _ => rfl)
  | recorded other => exact plain (tables.lastJobId_record _) rfl (tables.liveCount_record _ id)
  | settled other =>
    exact plain (tables.lastJobId_record _) rfl
      ((updated _ (·.id == other) (·.completed now) fun _ => rfl).trans
        (tables.liveCount_record ⟨other, now⟩ id))
  | archived job lastError live =>
    have hfiled : (tables.insertDeadLetter (letterOf job lastError now)).2.Ordered :=
      ho.of_jobs rfl rfl
    refine (hfiled.liveCount_deleteJob live id).trans ?_
    change tables.liveCount id =
      tables.liveCount id + (decide (tables.lastJobId < id ∧ id ≤ tables.lastJobId)).toNat
    rw [hold]
    rfl

/-! ## Dead letters -/

namespace Tables

variable (tables : Tables)

theorem letterCount_insertDeadLetter {letter : Int → DeadLetter} {job : Int}
    (hletter : ∀ n, (letter n).originalJobId = job) (id : Int) :
    (tables.insertDeadLetter letter).2.letterCount id =
      tables.letterCount id + (some job == some id).toNat := by
  simp only [letterCount, insertDeadLetter, List.countP_append, List.countP_singleton, hletter]
  cases h : job == id <;> simp_all

theorem letterCount_deleteDeadLetters (picks : DeadLetter → Bool) {id : Int}
    (h : tables.letterCount id ≤ 1) :
    (tables.deleteDeadLetters picks).2.letterCount id +
        (tables.deadLetters.any fun letter => picks letter && letter.originalJobId == id).toNat =
      tables.letterCount id := by
  have hsplit : tables.letterCount id =
      (tables.deadLetters.filter picks).countP (·.originalJobId == id) +
        (tables.deadLetters.filter (!picks ·)).countP (·.originalJobId == id) :=
    List.countP_eq_countP_filter_add ..
  have hpicked : (tables.deadLetters.filter picks).countP (·.originalJobId == id) =
      tables.deadLetters.countP fun letter => picks letter && letter.originalJobId == id := by
    rw [List.countP_filter]
    congr 1
    funext letter
    exact Bool.and_comm ..
  have hkept : (tables.deleteDeadLetters picks).2.letterCount id =
      (tables.deadLetters.filter (!picks ·)).countP (·.originalJobId == id) := rfl
  rw [toNat_any_of_countP_le_one (by omega)]
  omega

theorem letterCount_record (entry : LedgerEntry) (id : Int) :
    (tables.record entry).letterCount id = tables.letterCount id := by
  unfold record
  split <;> rfl

end Tables

/-- A letter comes when its job is archived, and goes when it is taken away. -/
theorem Change.letterCount (h : Change now tables operation reply after) {id : Int}
    (hone : tables.letterCount id ≤ 1) :
    after.letterCount id + (operation.clears reply && tables.deadLetters.any fun letter =>
        operation.takes letter && letter.originalJobId == id).toNat =
      tables.letterCount id + (operation.archived? reply == some id).toNat := by
  cases h with
  | failed _ error =>
    rw [archived?_error, clears_error]
    rfl
  | looked _ _ hlooks =>
    rw [archived?_of_looks hlooks, clears_of_looks hlooks]
    rfl
  | enqueued | claimed | idle | completed | rescheduled | buried | reclaimed | cancelled => rfl
  | recorded other =>
    rw [tables.letterCount_record]
    rfl
  | settled other =>
    exact congrArg (· + 0) (tables.letterCount_record ⟨other, now⟩ id)
  | archived job lastError =>
    exact congrArg (· + 0) (tables.letterCount_insertDeadLetter (fun _ => rfl) id)
  | restored | purged => exact tables.letterCount_deleteDeadLetters _ hone
  | discarded letterId =>
    have hdelete := tables.letterCount_deleteDeadLetters (·.id == letterId) hone
    cases hcount : (tables.deleteDeadLetters (·.id == letterId)).1 with
    | succ n => exact hdelete
    | zero =>
      -- no letter has this id, so none of this job
      have hnone : ∀ letter ∈ tables.deadLetters, (letter.id == letterId) = false := by
        simpa [Tables.deleteDeadLetters, List.filter_eq_nil_iff] using hcount
      have hany : (tables.deadLetters.any fun letter =>
          letter.id == letterId && letter.originalJobId == id) = false := by
        rw [List.any_eq_false]
        intro letter hletter
        simp [hnone letter hletter]
      rw [hany] at hdelete
      exact hdelete

/-! ## Ids of dead letters -/

theorem Tables.empty_filed : Tables.empty.Filed where
  sorted := List.Pairwise.nil
  handedOut letter hletter := by simp [Tables.empty, Tables.bare] at hletter

theorem Tables.Filed.of_letters (h : tables.Filed) (hletters : after.deadLetters = tables.deadLetters)
    (hlast : after.lastDeadLetterId = tables.lastDeadLetterId) : after.Filed where
  sorted := hletters ▸ h.sorted
  handedOut := by
    rw [hletters, hlast]
    exact h.handedOut

theorem Tables.Filed.insertDeadLetter (h : tables.Filed) {letter : Int → DeadLetter}
    (hletter : ∀ n, (letter n).id = n) : (tables.insertDeadLetter letter).2.Filed where
  sorted := by
    refine List.pairwise_append.mpr ⟨h.sorted, List.pairwise_singleton _ _, fun a ha b hb => ?_⟩
    have := h.handedOut a ha
    rw [List.mem_singleton.mp hb, hletter]
    omega
  handedOut := by
    intro a ha
    rcases List.mem_append.mp ha with hold | hnew
    · have := h.handedOut a hold
      simp only [Tables.insertDeadLetter]
      omega
    · rw [List.mem_singleton.mp hnew, hletter]
      exact Int.le_refl _

theorem Tables.Filed.deleteDeadLetters (h : tables.Filed) (picks : DeadLetter → Bool) :
    (tables.deleteDeadLetters picks).2.Filed where
  sorted := h.sorted.filter _
  handedOut letter hletter := h.handedOut letter (List.mem_filter.mp hletter).1

theorem Change.filed (h : Change now tables operation reply after) (hf : tables.Filed) : after.Filed := by
  have hrecord : ∀ entry, (tables.record entry).Filed := by
    intro entry
    unfold Tables.record
    split
    · exact hf
    · exact hf.of_letters rfl rfl
  cases h with
  | failed | looked | idle => exact hf
  | enqueued | claimed | completed | rescheduled | buried | reclaimed | cancelled =>
    exact hf.of_letters rfl rfl
  | recorded other => exact hrecord _
  | settled other => exact (hrecord ⟨other, now⟩).of_letters rfl rfl
  | archived job lastError =>
    have hletter : (tables.insertDeadLetter (letterOf job lastError now)).2.Filed :=
      hf.insertDeadLetter fun _ => rfl
    exact hletter.of_letters rfl rfl
  | restored _ attempts letter =>
    have hjob : (tables.insertJob (Row.fresh (jobOfLetter letter) attempts now)).2.Filed :=
      hf.of_letters rfl rfl
    exact hjob.deleteDeadLetters _
  | discarded | purged => exact hf.deleteDeadLetters _

theorem Tables.Filed.picked_le_one (h : tables.Filed) (id : Int) :
    (tables.deleteDeadLetters (·.id == id)).1 ≤ 1 := by
  change (tables.deadLetters.filter (·.id == id)).length ≤ 1
  rw [← List.countP_eq_length_filter]
  exact countP_key_le_one h.sorted id

theorem Tables.Filed.picked_eq_one (h : tables.Filed) {id : Int} {letter : DeadLetter}
    (found : tables.deadLetter? id = some letter) : (tables.deleteDeadLetters (·.id == id)).1 = 1 := by
  have hle := h.picked_le_one id
  have hid : letter.id = id := by simpa using List.find?_some found
  have hpos : 0 < (tables.deleteDeadLetters (·.id == id)).1 :=
    List.length_pos_of_mem (List.mem_filter.mpr
      ⟨List.mem_of_find?_eq_some found, beq_iff_eq.mpr hid⟩)
  omega

/-! ## The total -/

namespace Tables

theorem total_updateJobs (tables : Tables) (picks : Row → Bool) (change : Row → Row) :
    (tables.updateJobs picks change).2.total = tables.total := by
  simp [total, updateJobs]

theorem total_insertJob (tables : Tables) (row : Int → Row) :
    (tables.insertJob row).2.total = tables.total + 1 := by
  simp only [total, insertJob, List.length_append, List.length_singleton]
  omega

theorem total_record (tables : Tables) (entry : LedgerEntry) :
    (tables.record entry).total = tables.total := by
  unfold record
  split <;> rfl

theorem total_deleteDeadLetters (tables : Tables) (picks : DeadLetter → Bool) :
    (tables.deleteDeadLetters picks).2.total + (tables.deleteDeadLetters picks).1 = tables.total := by
  have hsplit := List.length_eq_length_filter_add (l := tables.deadLetters) picks
  simp only [total, deleteDeadLetters]
  omega

end Tables

/-- Archiving trades a row for a letter. -/
theorem Tables.Ordered.total_archive (ho : tables.Ordered) {id : Int} (live : (tables.job? id).isSome)
    (letter : Int → DeadLetter) :
    ((tables.insertDeadLetter letter).2.deleteJob id).2.total = tables.total := by
  have hone : tables.jobs.countP (·.id == id) = 1 := ho.liveCount_of_live live
  have hsplit := List.length_eq_length_filter_add (l := tables.jobs) (·.id == id)
  rw [← List.countP_eq_length_filter, hone] at hsplit
  change tables.jobs.length = 1 + (tables.jobs.filter (·.id != id)).length at hsplit
  simp only [Tables.total, Tables.deleteJob, Tables.insertDeadLetter, List.length_append,
    List.length_singleton]
  omega

/-- A job whose counters fit is read back when it has been put in. -/
theorem Row.fresh_answer {job : NewJob} {attempts : Int}
    (h : fitsCounter (job.maxAttempts.getD attempts) = true) (now : Instant) (id : Int) :
    ∃ answer, (Row.fresh job attempts now id).answer = .ok answer := by
  have hzero : fitsCounter 0 = true := by decide
  have hfits : (fitsCounter (Row.fresh job attempts now id).attemptCount &&
      fitsCounter (Row.fresh job attempts now id).maxAttempts) = true :=
    Bool.and_eq_true_iff.mpr ⟨hzero, h⟩
  exact ⟨_, Row.answer_eq_ok.mpr (by rw [Row.read?, if_pos hfits])⟩

theorem gain_error (operation : Operation) (e : StoreError) : operation.gain (.error e) = 0 := by
  cases operation <;> rfl

theorem gain_of_looks {operation : Operation} (h : operation.looks = true)
    (reply : Except StoreError Reply) : operation.gain reply = 0 := by
  cases operation <;> first | rfl | cases h

/-- The total grows by an enqueue, and shrinks by what is deleted or purged. -/
theorem Change.total (h : Change now tables operation reply after) (ho : tables.Ordered)
    (hf : tables.Filed) (hfits : operation.fits = true) :
    (after.total : Int) = tables.total + operation.gain reply := by
  cases h with
  | failed _ error => simp [gain_error]
  | looked _ _ hlooks => simp [gain_of_looks hlooks]
  | idle => simp [Operation.gain]
  | enqueued job attempts =>
    obtain ⟨answer, hanswer⟩ := Row.fresh_answer hfits now (tables.lastJobId + 1)
    rw [hanswer, Tables.total_insertJob]
    rfl
  | claimed | completed | rescheduled | buried | reclaimed | cancelled =>
    rw [Tables.total_updateJobs]
    simp [Operation.gain]
  | recorded =>
    rw [Tables.total_record]
    simp [Operation.gain]
  | settled =>
    rw [Tables.total_updateJobs, Tables.total_record]
    simp [Operation.gain]
  | archived job lastError live =>
    rw [ho.total_archive live]
    simp [Operation.gain]
  | restored id attempts letter job found =>
    -- one letter has the id, so one goes for the row that comes
    have hdelete := Tables.total_deleteDeadLetters
      (tables.insertJob (Row.fresh (jobOfLetter letter) attempts now)).2 (·.id == id)
    change _ + (tables.deleteDeadLetters (·.id == id)).1 = _ at hdelete
    rw [Tables.total_insertJob, hf.picked_eq_one found] at hdelete
    rw [Nat.add_right_cancel hdelete]
    simp [Operation.gain]
  | discarded id =>
    have hdelete := tables.total_deleteDeadLetters (·.id == id)
    rcases Nat.le_one_iff_eq_zero_or_eq_one.mp (hf.picked_le_one id) with hcount | hcount
    all_goals
      rw [hcount] at hdelete ⊢
      simp only [Nat.lt_irrefl, Nat.lt_one_iff, decide_true, decide_false, Operation.gain]
      omega
  | purged cutoff =>
    have hdelete := tables.total_deleteDeadLetters fun letter => storedBefore letter.archivedAt cutoff
    simp only [Operation.gain]
    omega

/-! ## Ids that are handed out -/

/-- Only the id behind the last one is handed out, and it is the last one then. -/
theorem Change.handedOut (h : Change now tables operation reply after) {id : Int}
    (hid : operation.handedOut? reply = some id) :
    id = tables.lastJobId + 1 ∧ after.lastJobId = id := by
  have inserted : ∀ {job : NewJob} {attempts : Int} {answer : Job},
      (Row.fresh job attempts now (tables.lastJobId + 1)).read? = some answer → answer.id = id →
      id = tables.lastJobId + 1 ∧ tables.lastJobId + 1 = id := by
    intro job attempts answer hread hanswer
    have hrow : answer.id = tables.lastJobId + 1 := (Row.read?_spec hread).1
    omega
  cases h with
  | failed _ error => cases operation <;> cases hid
  | looked _ _ hlooks => cases operation <;> first | cases hid | cases hlooks
  | enqueued job attempts =>
    cases hread : (Row.fresh job attempts now (tables.lastJobId + 1)).answer with
    | error =>
      rw [hread] at hid
      cases hid
    | ok answer =>
      rw [hread] at hid
      exact inserted (Row.answer_eq_ok.mp hread) (Option.some.inj hid)
  | restored _ _ _ _ _ hread => exact inserted hread (Option.some.inj hid)
  | _ => cases hid

/-! ## Along a run -/

def issued (history : List Exchange) : List Int := history.filterMap Exchange.handedOut?

/-- The books balance: a row and the archivings of it make one for an id that there is, dead letters and
their takings make the archivings, and no id is handed out twice. -/
structure Balanced (history : List Exchange) (tables : Tables) : Prop where
  ordered : tables.Ordered
  filed : tables.Filed
  counted : 0 ≤ tables.lastJobId
  live : ∀ id, tables.liveCount id + history.countP (·.archives id) =
    (decide (0 < id ∧ id ≤ tables.lastJobId)).toNat
  letters : ∀ id, tables.letterCount id + history.countP (·.spends id) =
    history.countP (·.archives id)
  rising : (issued history).Pairwise (· < ·)
  known : ∀ id ∈ issued history, 0 < id ∧ id ≤ tables.lastJobId

theorem Balanced.start : Balanced [] Tables.empty where
  ordered := Tables.empty_ordered
  filed := Tables.empty_filed
  counted := Int.le_refl 0
  live id := by
    have hnone : ¬(0 < id ∧ id ≤ Tables.empty.lastJobId) := fun h => absurd h.1 (Int.not_lt.mpr h.2)
    rw [decide_eq_false hnone]
    rfl
  letters _ := rfl
  rising := List.Pairwise.nil
  known _ h := nomatch h

/-- A row is there or has been archived, but for one thing at a time. -/
theorem Balanced.archived_le_one {history : List Exchange} {tables : Tables}
    (h : Balanced history tables) (id : Int) : history.countP (·.archives id) ≤ 1 := by
  have := h.live id
  have := Bool.toNat_le (decide (0 < id ∧ id ≤ tables.lastJobId))
  omega

/-- The ids that there are behind an exchange are those before it and those it adds. -/
theorem toNat_range {id last next : Int} (hlast : 0 ≤ last) (hnext : last ≤ next) :
    (decide (0 < id ∧ id ≤ next)).toNat =
      (decide (0 < id ∧ id ≤ last)).toNat + (decide (last < id ∧ id ≤ next)).toNat := by
  by_cases hold : 0 < id ∧ id ≤ last
  · have hboth : 0 < id ∧ id ≤ next := by omega
    have hnew : ¬(last < id ∧ id ≤ next) := by omega
    rw [decide_eq_true hold, decide_eq_true hboth, decide_eq_false hnew]
    rfl
  · have hiff : (0 < id ∧ id ≤ next) ↔ (last < id ∧ id ≤ next) := by omega
    rw [decide_eq_false hold, decide_eq_decide.mpr hiff]
    exact (Nat.zero_add _).symm

theorem Balanced.next {history : List Exchange} (e : Exchange) (h : Balanced history e.before) :
    Balanced (history ++ [e]) e.after := by
  have hlast := e.change.lastJobId_le
  refine ⟨e.change.ordered h.ordered, e.change.filed h.filed, Int.le_trans h.counted hlast,
    fun id => ?_, fun id => ?_, ?_, ?_⟩
  · have hstep : e.after.liveCount id + (e.archives id).toNat = _ := e.change.liveCount h.ordered id
    have hlive := h.live id
    rw [Run.countP_snoc, toNat_range h.counted hlast]
    omega
  · have hone : e.before.letterCount id ≤ 1 := by
      have := h.letters id
      have := h.archived_le_one id
      omega
    have hstep : e.after.letterCount id + (e.spends id).toNat =
        e.before.letterCount id + (e.archives id).toNat := e.change.letterCount hone
    have hletters := h.letters id
    rw [Run.countP_snoc, Run.countP_snoc]
    omega
  -- what is handed out now is the id behind the last one, and all others are at most that
  · rw [issued, Run.filterMap_snoc]
    refine List.pairwise_append.mpr ⟨h.rising, ?_, fun a ha b hb => ?_⟩
    · cases e.handedOut? <;> simp
    · obtain ⟨hnew, -⟩ := e.change.handedOut (Option.mem_toList.mp hb)
      have := h.known a ha
      omega
  · intro id hid
    rw [issued, Run.filterMap_snoc] at hid
    rcases List.mem_append.mp hid with hold | hnew
    · have := h.known id hold
      omega
    · obtain ⟨hnext, hlatest⟩ := e.change.handedOut (Option.mem_toList.mp hnew)
      have := h.counted
      omega

theorem balanced_run (requests : List Request) :
    Balanced (Tables.empty.exchanges requests) (Tables.empty.afterAll requests) :=
  Run.invariant Balanced.start (fun _ _ request _ h => h.next ⟨_, request⟩) requests
    fun _ _ => trivial

/-- With a balance the books of an id that there is are in one of three states. -/
theorem Balanced.books {history : List Exchange} {tables : Tables} (h : Balanced history tables)
    {id : Int} (hid : 0 < id ∧ id ≤ tables.lastJobId) :
    booksOf history tables id ∈ [Books.working, Books.shelved, Books.gone] := by
  have hlive := h.live id
  have hletters := h.letters id
  rw [decide_eq_true hid, Bool.toNat_true] at hlive
  rcases Nat.le_one_iff_eq_zero_or_eq_one.mp (h.archived_le_one id) with harchived | harchived
  · -- never archived: the row is there, and no letter was ever written
    have hbooks : booksOf history tables id = Books.working := by
      simp only [booksOf, Books.working, Books.mk.injEq]
      omega
    simp [hbooks]
  · rcases Nat.le_one_iff_eq_zero_or_eq_one.mp
      (show tables.letterCount id ≤ 1 by omega) with hletter | hletter
    · have hbooks : booksOf history tables id = Books.gone := by
        simp only [booksOf, Books.gone, Books.mk.injEq]
        omega
      simp [hbooks]
    · have hbooks : booksOf history tables id = Books.shelved := by
        simp only [booksOf, Books.shelved, Books.mk.injEq]
        omega
      simp [hbooks]

/-- **Every job is in one place.** In every run of the store the ids that enqueues and restores hand
out ascend, so none is handed out twice; each of them is a live row that was never archived, or was
archived once and has one dead letter, or was archived once and that letter was taken away once, by a
restore, a delete or a purge; and the live rows and dead letters together become more by an answered
enqueue and less by what is deleted or purged, and stay as many otherwise. -/
theorem every_job_in_one_place (requests : List Request)
    (hfits : ∀ request ∈ requests, request.operation.fits = true) :
    (issued (Tables.empty.exchanges requests)).Pairwise (· < ·) ∧
    (∀ id ∈ issued (Tables.empty.exchanges requests),
      booksOf (Tables.empty.exchanges requests) (Tables.empty.afterAll requests) id ∈
        [Books.working, Books.shelved, Books.gone]) ∧
    ∀ e ∈ Tables.empty.exchanges requests,
      (e.after.total : Int) = e.before.total + e.act.operation.gain e.reply := by
  have hbalanced := balanced_run requests
  refine ⟨hbalanced.rising, fun id hid => hbalanced.books (hbalanced.known id hid), fun e he => ?_⟩
  obtain ⟨earlier, later, hsplit⟩ := List.append_of_mem he
  obtain ⟨before, after, rfl, -, hbefore, -⟩ := Run.history_split hsplit
  have hmet : Balanced (Tables.empty.exchanges before) (Run.final Tables.after Tables.empty before) :=
    balanced_run before
  rw [← hbefore] at hmet
  exact e.change.total hmet.ordered hmet.filed (hfits e.act (by simp))

/-- Four jobs are put in. The first is archived and restored as the fifth, which is archived at the end;
the second is archived and its letter deleted; the third is archived, once only, and purged; the fourth
stays, as the database loses the commit of its archiving. -/
def shuffled : List Request :=
  let ask (second : Nat) (operation : Operation) : Request := ⟨operation, wholeSecond second, []⟩
  let put : Operation := .enqueue ⟨"a", [], none, none, none, none⟩ standardMaxAttempts
  let known (id : Int) : Job :=
    { id, tenantId := none, jobType := "a", payload := [], status := .pending,
      idempotencyKey := none, attemptCount := 0, maxAttempts := 5, lastError := none,
      runAt := wholeSecond 0, startedAt := none, completedAt := none,
      createdAt := wholeSecond 0, updatedAt := wholeSecond 0 }
  [ask 0 put, ask 0 put, ask 0 put, ask 0 put,
   ask 1 (.archive (known 1) "bad"), ask 1 (.restore 1 5), ask 1 (.restore 1 5),
   ask 2 (.archive (known 2) "bad"), ask 2 (.deleteDeadLetter 2), ask 2 (.deleteDeadLetter 2),
   ask 3 (.archive (known 3) "bad"), ask 3 (.archive (known 3) "bad"),
   ask 4 (.purgeArchivedBefore (wholeSecond 4)),
   ⟨.archive (known 4) "bad", wholeSecond 5, [false, false, false, true]⟩,
   ask 6 (.archive (known 5) "bad")]

theorem every_job_in_one_place_shuffled :
    issued (Tables.empty.exchanges shuffled) = [1, 2, 3, 4, 5] ∧
    [1, 2, 3, 4, 5].map (booksOf (Tables.empty.exchanges shuffled) (Tables.empty.afterAll shuffled)) =
      [Books.gone, Books.gone, Books.gone, Books.working, Books.shelved] ∧
    (Tables.empty.exchanges shuffled).map (fun e => e.act.operation.gain e.reply) =
      [1, 1, 1, 1, 0, 0, 0, 0, -1, 0, 0, 0, -1, 0, 0] ∧
    (issued (Tables.empty.exchanges shuffled)).Pairwise (· < ·) := by
  refine ⟨by decide +kernel, by decide +kernel, by decide +kernel, ?_⟩
  exact (every_job_in_one_place shuffled (by decide +kernel)).1

end DurableJobs.Store
