import DurableJobs.Proofs.Store.Claims
import DurableJobs.Proofs.Store.Verdicts

/-!
# Where the work of a row comes from

A job may be archived, made a job again, archived again, and so on without an end. Its work, that is its
type, its tenant and its payload, is copied at every turn: from the row to whoever asks for the job, from
that copy to the dead letter, and from the letter to the row of a new job.

`origin` goes back from an id through all restorings to what the first enqueue was given. `Lineage` says
that rows, letters and all copies that are about have the work of their origin. The copies belong to the
law, since a letter is written from a copy and not from the row.
-/

set_option autoImplicit false

namespace DurableJobs

/-- What is to be done: the type of a job, for whom, and with what. -/
structure Work where
  jobType : String
  tenantId : Option String
  payload : List UInt8
  deriving DecidableEq, Repr

def NewJob.work (job : NewJob) : Work := ⟨job.jobType, job.tenantId, job.payload⟩

def JobOf.work {τ : Type} (job : JobOf τ) : Work := ⟨job.jobType, job.tenantId, job.payload⟩

def DeadLetterOf.work {τ : Type} (letter : DeadLetterOf τ) : Work :=
  ⟨letter.jobType, letter.tenantId, letter.payload⟩

namespace Store

namespace Row

def work (row : Row) : Work := ⟨row.jobType, row.tenantId, row.payload⟩

/-- What a row is given once and for all: its key, how often it may be tried, and when it came. -/
def terms (row : Row) : Option String × Int × Instant :=
  (row.idempotencyKey, row.maxAttempts, row.createdAt)

theorem read?_work {row : Row} {job : Job} (h : row.read? = some job) : job.work = row.work := by
  unfold read? at h
  split at h
  · cases h
    rfl
  · cases h

end Row

/-! ## What writes keep -/

variable {now : Instant} {tables after : Tables} {operation : Operation}
  {reply : Except StoreError Reply}

/-- A row that stays keeps its work and its terms. -/
theorem Fate.keeps {last id : Int} {row row' : Row}
    (h : Fate now last id operation reply (some row) (some row')) :
    row'.work = row.work ∧ row'.terms = row.terms := by
  cases h <;> exact ⟨rfl, rfl⟩

/-- A row comes under the id behind the last one. -/
theorem Fate.new_of_none {last id : Int} {row : Row} (h : Fate now last id operation reply none (some row)) :
    id = last + 1 := by
  cases h with
  | created _ _ _ _ _ hnew => exact hnew

/-- A new row is put in by an enqueue, or is made of a dead letter. -/
theorem Change.created (h : Change now tables operation reply after) (ho : tables.Ordered) {id : Int}
    {row : Row} (hid : tables.lastJobId < id) (hafter : after.job? id = some row) :
    (∃ job attempts, operation = .enqueue job attempts ∧ row = Row.fresh job attempts now id) ∨
    ∃ letterId attempts letter, operation = .restore letterId attempts ∧
      tables.deadLetter? letterId = some letter ∧ row = Row.fresh (jobOfLetter letter) attempts now id := by
  have hnone : tables.job? id = none := ho.job?_of_fresh hid
  have inserted : ∀ {job attempts}, (tables.insertJob (Row.fresh job attempts now)).2.job? id = some row →
      row = Row.fresh job attempts now id := by
    intro job attempts h
    rw [tables.insertJob_job? _ id fun _ => rfl, hnone, Option.none_or] at h
    split at h
    · cases h
      rfl
    · cases h
  cases hop : operation.inserts with
  | false =>
    have hfate := h.fate ho id
    rw [hnone, hafter] at hfate
    generalize hrow : some row = row? at hfate
    generalize hnone' : (none : Option Row) = none? at hfate
    cases hfate with
    | kept =>
      cases hnone'.trans hrow.symm
    | created _ _ _ _ hinserts =>
      rw [hop] at hinserts
      cases hinserts
    | _ => cases hnone'
  | true =>
    cases h with
    | failed | looked =>
      rw [hnone] at hafter
      cases hafter
    | enqueued job attempts => exact Or.inl ⟨job, attempts, rfl, inserted hafter⟩
    | restored letterId attempts letter _ found =>
      exact Or.inr ⟨letterId, attempts, letter, rfl, found, inserted hafter⟩
    | _ => cases hop

/-! ## Copies -/

/-- The job that a reply holds. -/
def Reply.job? : Reply → Option Job
  | .job answer => some answer
  | .found answer? | .claimed answer? => answer?
  | _ => none

/-- The job that is answered in an exchange. -/
def Exchange.told? (e : Exchange) : Option Job :=
  match e.reply with
  | .ok reply => reply.job?
  | .error _ => none

/-- The job has been answered, as it is, by the store. -/
def Told (history : List Exchange) (job : Job) : Prop := ∃ e ∈ history, e.told? = some job

instance (history : List Exchange) (job : Job) : Decidable (Told history job) :=
  inferInstanceAs (Decidable (∃ e ∈ history, e.told? = some job))

variable {history : List Exchange} {e : Exchange} {job : Job}

theorem Told.snoc (h : Told history job) : Told (history ++ [e]) job := by
  obtain ⟨c, hc, htold⟩ := h
  exact ⟨c, List.mem_append_left _ hc, htold⟩

theorem told_snoc (h : Told (history ++ [e]) job) : Told history job ∨ e.told? = some job := by
  obtain ⟨c, hc, htold⟩ := h
  rcases List.mem_append.mp hc with hold | hnew
  · exact Or.inl ⟨c, hold, htold⟩
  · rw [List.mem_singleton.mp hnew] at htold
    exact Or.inr htold

theorem findJob_ok {id : Int} {s last : Session} {job : Job}
    (h : (findJob id).execute s = (.ok (some job), last)) :
    ∃ row, s.tables.job? id = some row ∧ row.read? = some job := by
  obtain ⟨found, mid, hlook, hrest⟩ := Call.execute_bind_ok h
  obtain ⟨rfl, -⟩ := Prod.mk.inj (Except.ok.inj (statement_ok hlook))
  cases hrow : s.tables.job? id with
  | none =>
    rw [hrow] at hrest
    cases hrest
  | some row =>
    rw [hrow] at hrest
    obtain ⟨read, _, hread, hend⟩ := Call.execute_bind_ok hrest
    cases hend
    refine ⟨row, rfl, ?_⟩
    rw [execute_readRow] at hread
    exact Row.answer_eq_ok.mp (Prod.mk.inj hread).1

/-- What an operation is answered is wrapped up in its own way. -/
theorem Exchange.reply_of_call {α : Type} {wrap : α → Reply} {call : Call α} {reply : Reply}
    (hcall : e.act.operation.call e.act.now = wrap <$> call) (hreply : e.reply = .ok reply) :
    ∃ answer last, call.execute ⟨e.before, e.act.faults⟩ = (.ok answer, last) ∧ reply = wrap answer := by
  have hrun : ((e.act.operation.call e.act.now).execute ⟨e.before, e.act.faults⟩).1 = .ok reply := hreply
  rw [hcall, Call.execute_map] at hrun
  cases hresult : call.execute ⟨e.before, e.act.faults⟩ with
  | mk result last =>
    rw [hresult] at hrun
    cases result with
    | error => cases hrun
    | ok answer =>
      cases hrun
      exact ⟨answer, last, rfl, rfl⟩

/-- A new job that is answered is the new row. -/
theorem inserted_row (ho : tables.Ordered) {new : NewJob} {attempts : Int} {job : Job}
    (hread : (Row.fresh new attempts now (tables.lastJobId + 1)).read? = some job) :
    (tables.insertJob (Row.fresh new attempts now)).2.job? job.id =
      some (Row.fresh new attempts now (tables.lastJobId + 1)) := by
  have hid : job.id = tables.lastJobId + 1 := (Row.read?_spec hread).1
  rw [hid, tables.insertJob_job? _ _ fun _ => rfl, ho.job?_of_fresh (by omega), Option.none_or, if_pos rfl]

/-- A job is answered as its row stands behind the answer. -/
theorem told?_row (h : e.told? = some job) (ho : e.before.Ordered) :
    ∃ row, e.after.job? job.id = some row ∧ row.read? = some job := by
  obtain ⟨reply, hreply, hjob⟩ : ∃ reply, e.reply = .ok reply ∧ reply.job? = some job := by
    unfold Exchange.told? at h
    split at h
    · next reply hreply => exact ⟨reply, hreply, h⟩
    · cases h
  have hchange := e.change
  rw [hreply] at hchange
  -- most operations answer no job
  have silent : ∀ {α : Type} {wrap : α → Reply} {call : Call α},
      e.act.operation.call e.act.now = wrap <$> call → (∀ a, (wrap a).job? = none) → False := by
    intro α wrap call hcall hnone
    obtain ⟨a, _, -, rfl⟩ := Exchange.reply_of_call hcall hreply
    rw [hnone a] at hjob
    cases hjob
  have hcall : ∀ {operation : Operation}, e.act.operation = operation →
      e.act.operation.call e.act.now = operation.call e.act.now := fun h => h ▸ rfl
  generalize hanswer : Except.ok reply = answer at hchange
  generalize e.after = after at hchange ⊢
  cases hop : e.act.operation with
  | enqueue new attempts =>
    rw [hop] at hchange
    cases hchange with
    | failed => cases hanswer
    | looked _ _ hlooks => cases hlooks
    | enqueued =>
      cases hread : (Row.fresh new attempts e.act.now (e.before.lastJobId + 1)).answer with
      | error =>
        rw [hread] at hanswer
        cases hanswer
      | ok read =>
        rw [hread] at hanswer
        cases hanswer
        cases hjob
        have hread := Row.answer_eq_ok.mp hread
        exact ⟨_, inserted_row ho hread, hread⟩
  | findJob id =>
    obtain ⟨found, last, hfind, rfl⟩ := Exchange.reply_of_call (hcall hop) hreply
    cases hjob
    obtain ⟨row, hrow, hread⟩ := findJob_ok hfind
    obtain rfl : id = job.id := by
      rw [(Row.read?_spec hread).1, (Tables.mem_of_job? hrow).2]
    rw [hop] at hchange
    cases hchange with
    | failed => cases hanswer
    | looked => exact ⟨row, hrow, hread⟩
  | claimNext =>
    obtain ⟨claimed, last, -, rfl⟩ := Exchange.reply_of_call (hcall hop) hreply
    cases hjob
    rw [hop, ← hanswer] at hchange
    obtain ⟨row, -, -, hafter, hread⟩ := hchange.claimed_row ho
    exact ⟨_, hafter, hread⟩
  | restore id attempts =>
    rw [hop] at hchange
    cases hchange with
    | failed => cases hanswer
    | looked _ _ hlooks => cases hlooks
    | restored _ _ letter read hfound hread =>
      cases hanswer
      cases hjob
      exact ⟨_, inserted_row ho hread, hread⟩
  | _ => exact (silent (hcall hop) fun _ => rfl).elim

/-! ## Origins -/

/-- What the ids go back to when an exchange has put in a new one: an enqueue is an origin, and what is
restored goes back to what its letter goes back to. -/
def Exchange.origins (e : Exchange) (known : Int → Option NewJob) (id : Int) : Option NewJob :=
  if e.before.lastJobId < id ∧ id ≤ e.after.lastJobId then
    match e.act.operation with
    | .enqueue job _ => some job
    | .restore letterId _ =>
        (e.before.deadLetter? letterId).bind fun letter => known letter.originalJobId
    | _ => none
  else known id

/-- What the enqueue was given that the job of an id goes back to, through all its restorings. -/
def origin (history : List Exchange) : Int → Option NewJob :=
  history.foldl (fun known e => e.origins known) fun _ => none

/-- The work that an id goes back to. -/
def originalWork (history : List Exchange) (id : Int) : Option Work :=
  (origin history id).map NewJob.work

theorem origin_snoc (history : List Exchange) (e : Exchange) :
    origin (history ++ [e]) = e.origins (origin history) :=
  List.foldl_append

theorem originalWork_of_old {id : Int} (hid : id ≤ e.before.lastJobId) :
    originalWork (history ++ [e]) id = originalWork history id := by
  rw [originalWork, origin_snoc, Exchange.origins, if_neg (by omega), originalWork]

/-- Rows, letters and the copies of jobs that are about have the work of their origin. -/
structure Lineage (history : List Exchange) (tables : Tables) : Prop where
  ordered : tables.Ordered
  rows : ∀ id row, tables.job? id = some row → originalWork history id = some row.work
  letters : ∀ letter ∈ tables.deadLetters, letter.originalJobId ≤ tables.lastJobId ∧
    originalWork history letter.originalJobId = some letter.work
  copies : ∀ job, Told history job → job.id ≤ tables.lastJobId ∧
    originalWork history job.id = some job.work

theorem Lineage.start : Lineage [] Tables.empty where
  ordered := Tables.empty_ordered
  rows _ _ h := nomatch h
  letters _ h := nomatch h
  copies _ h := by
    obtain ⟨_, hmem, -⟩ := h
    cases hmem

namespace Lineage

theorem rows_next (h : Lineage history e.before) {id : Int} {row' : Row}
    (hafter : e.after.job? id = some row') : originalWork (history ++ [e]) id = some row'.work := by
  by_cases hid : id ≤ e.before.lastJobId
  · rw [originalWork_of_old hid]
    have hfate := e.fate h.ordered id
    rw [hafter] at hfate
    cases hbefore : e.before.job? id with
    | none =>
      rw [hbefore] at hfate
      have hnew := hfate.new_of_none
      omega
    | some row =>
      rw [hbefore] at hfate
      rw [h.rows id row hbefore, hfate.keeps.1]
  · have hnew : e.before.lastJobId < id ∧ id ≤ e.after.lastJobId := by
      obtain ⟨hmem, hrow⟩ := Tables.mem_of_job? hafter
      have := (e.change.ordered h.ordered).handedOut row' hmem
      omega
    rw [originalWork, origin_snoc, Exchange.origins, if_pos hnew]
    rcases e.change.created h.ordered hnew.1 hafter with ⟨job, attempts, hop, rfl⟩ |
      ⟨letterId, attempts, letter, hop, hfound, rfl⟩
    · rw [hop]
      rfl
    · simp only [hop, hfound, Option.bind_some]
      exact (h.letters letter (List.mem_of_find?_eq_some hfound)).2

theorem letters_next (h : Lineage history e.before)
    (hcopy : ∀ job lastError, e.act.operation = .archive job lastError → Told history job)
    {letter : DeadLetter} (hletter : letter ∈ e.after.deadLetters) :
    letter.originalJobId ≤ e.after.lastJobId ∧
      originalWork (history ++ [e]) letter.originalJobId = some letter.work := by
  have hlast := e.change.lastJobId_le
  rcases e.change.archive_grows hletter with hold | ⟨job, lastError, hop, rfl⟩
  · obtain ⟨hid, hwork⟩ := h.letters letter hold
    rw [originalWork_of_old hid]
    exact ⟨Int.le_trans hid hlast, hwork⟩
  · obtain ⟨hid, hwork⟩ := h.copies job (hcopy job lastError hop)
    refine ⟨Int.le_trans hid hlast, ?_⟩
    exact (originalWork_of_old hid).trans hwork

theorem copies_next (h : Lineage history e.before) {job : Job} (htold : Told (history ++ [e]) job) :
    job.id ≤ e.after.lastJobId ∧ originalWork (history ++ [e]) job.id = some job.work := by
  rcases told_snoc htold with hold | hnew
  · obtain ⟨hid, hwork⟩ := h.copies job hold
    rw [originalWork_of_old hid]
    exact ⟨Int.le_trans hid e.change.lastJobId_le, hwork⟩
  · obtain ⟨row, hrow, hread⟩ := told?_row hnew h.ordered
    obtain ⟨hmem, hid⟩ := Tables.mem_of_job? hrow
    rw [h.rows_next hrow, Row.read?_work hread, ← hid]
    exact ⟨(e.change.ordered h.ordered).handedOut row hmem, rfl⟩

/-- An exchange keeps the lineage if what is archived is a copy that the store has answered. -/
theorem next (h : Lineage history e.before)
    (hcopy : ∀ job lastError, e.act.operation = .archive job lastError → Told history job) :
    Lineage (history ++ [e]) e.after where
  ordered := e.change.ordered h.ordered
  rows _ _ := h.rows_next
  letters _ := h.letters_next hcopy
  copies _ := h.copies_next

end Lineage

/-! ## Terms -/

/-- Whenever there is a row of an id that has been handed out, it has the terms. -/
structure Bound (id : Int) (terms : Option String × Int × Instant) (tables : Tables) : Prop where
  ordered : tables.Ordered
  handedOut : id ≤ tables.lastJobId
  kept : ∀ row, tables.job? id = some row → row.terms = terms

theorem Bound.of_row (ho : tables.Ordered) {row : Row} (hrow : row ∈ tables.jobs) :
    Bound row.id row.terms tables where
  ordered := ho
  handedOut := ho.handedOut row hrow
  kept found hfound := by
    rw [ho.job?_of_mem hrow] at hfound
    cases hfound
    rfl

theorem Bound.next {id : Int} {terms : Option String × Int × Instant}
    (h : Bound id terms e.before) : Bound id terms e.after where
  ordered := e.change.ordered h.ordered
  handedOut := Int.le_trans h.handedOut e.change.lastJobId_le
  kept row' hafter := by
    have hfate := e.fate h.ordered id
    rw [hafter] at hfate
    cases hbefore : e.before.job? id with
    | none =>
      have hnew := (hbefore ▸ hfate).new_of_none
      have hold := h.handedOut
      omega
    | some row =>
      rw [hbefore] at hfate
      exact hfate.keeps.2.trans (h.kept row hbefore)

theorem Bound.run {id : Int} {terms : Option String × Int × Instant} (h : Bound id terms tables)
    (requests : List Request) : Bound id terms (tables.afterAll requests) :=
  @Run.final_of_moments _ _ Tables.after _ (fun _ => True)
    (fun _ _ h => Bound.next h) tables requests h fun _ _ => trivial

/-- What is restored starts anew: a pending row, never tried, with the attempts that were asked for. -/
theorem Change.restored_anew {letterId attempts : Int} {job : Job}
    (h : Change now tables (.restore letterId attempts) (.ok (.job job)) after) (ho : tables.Ordered) :
    (∃ row, after.job? job.id = some row ∧ row.read? = some job) ∧
      job.attemptCount = 0 ∧ job.status = .pending ∧ job.maxAttempts = attempts := by
  generalize hanswer : Except.ok (Reply.job job) = reply at h
  cases h with
  | failed => cases hanswer
  | looked _ _ hlooks => cases hlooks
  | restored _ _ letter read hfound hread =>
    cases hanswer
    refine ⟨⟨_, inserted_row ho hread, hread⟩, ?_⟩
    unfold Row.read? at hread
    split at hread
    · cases hread
      exact ⟨rfl, show Status.ofStored Status.pending.name = .pending by decide, rfl⟩
    · cases hread

end Store

end DurableJobs
