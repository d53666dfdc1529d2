import DurableJobs.Proofs.Store.Change

/-!
# What becomes of a row

A change of the tables is a change of many rows at once. Claims about jobs are claims about one row, so
this file follows the row of one id: `Change.fate` says that it stays, comes into being, goes, or is
written to in one of six ways, and what has to be true of it for that.

All of it rests on the ids. They are handed out in ascending order and never twice (`Ordered`), so an id
names one row at most, a row that is inserted is a new one, and a row that is gone stays gone.
-/

set_option autoImplicit false

namespace DurableJobs.Store

/-! ## Ids -/

/-- Live rows stand in the order of their ids, all of which have been handed out. -/
structure Tables.Ordered (tables : Tables) : Prop where
  sorted : tables.jobs.Pairwise fun a b => a.id < b.id
  handedOut : ∀ row ∈ tables.jobs, row.id ≤ tables.lastJobId

namespace Tables

theorem empty_ordered : Tables.empty.Ordered where
  sorted := List.Pairwise.nil
  handedOut row hrow := by simp [Tables.empty, Tables.bare] at hrow

theorem mem_of_job? {tables : Tables} {id : Int} {row : Row} (h : tables.job? id = some row) :
    row ∈ tables.jobs ∧ row.id = id :=
  ⟨List.mem_of_find?_eq_some h, by simpa using List.find?_some h⟩

theorem job?_eq_none {tables : Tables} {id : Int} (h : ∀ row ∈ tables.jobs, row.id ≠ id) :
    tables.job? id = none := by
  simpa [job?] using h

/-- An id names the row that has it. -/
theorem Ordered.job?_of_mem {tables : Tables} (h : tables.Ordered) {row : Row}
    (hrow : row ∈ tables.jobs) : tables.job? row.id = some row := by
  have hsorted := h.sorted
  unfold job?
  generalize tables.jobs = jobs at hsorted hrow
  induction jobs with
  | nil => cases hrow
  | cons first rest ih =>
    obtain ⟨hfirst, hrest⟩ := List.pairwise_cons.mp hsorted
    rcases List.mem_cons.mp hrow with rfl | hmem
    · simp
    · have hlt := hfirst row hmem
      rw [List.find?_cons_of_neg (by simp; omega)]
      exact ih hrest hmem

/-- Ids that have not been handed out name no row. -/
theorem Ordered.job?_of_fresh {tables : Tables} (h : tables.Ordered) {id : Int}
    (hid : tables.lastJobId < id) : tables.job? id = none :=
  job?_eq_none fun row hrow => by
    have := h.handedOut row hrow
    omega

/-! ## Rows under the elementary writes -/

@[simp] theorem insertJob_job? (tables : Tables) (row : Int → Row) (id : Int)
    (hrow : ∀ n, (row n).id = n) :
    (tables.insertJob row).2.job? id =
      (tables.job? id).or (if id = tables.lastJobId + 1 then some (row id) else none) := by
  by_cases h : id = tables.lastJobId + 1
  · simp [insertJob, job?, List.find?_append, hrow, h]
  · have hne : tables.lastJobId + 1 ≠ id := fun heq => h heq.symm
    simp [insertJob, job?, List.find?_append, hrow, h, hne]

/-- A write that keeps ids changes the rows it picks, each in its place. -/
theorem updateJobs_job? (tables : Tables) (picks : Row → Bool) (change : Row → Row) (id : Int)
    (hid : ∀ row, (change row).id = row.id) :
    (tables.updateJobs picks change).2.job? id =
      (tables.job? id).map fun row => if picks row then change row else row := by
  have hsame : ((fun row : Row => row.id == id) ∘ fun row => if picks row then change row else row) =
      fun row => row.id == id := by
    funext row
    simp only [Function.comp_apply]
    split
    · rw [hid]
    · rfl
  simp only [updateJobs, job?, List.find?_map, hsame]

theorem deleteJob_job? (tables : Tables) (id other : Int) :
    (tables.deleteJob id).2.job? other = if other = id then none else tables.job? other := by
  simp only [deleteJob, job?, List.find?_filter]
  split
  · next h =>
    subst h
    simp
  · next h =>
    congr 1
    funext row
    by_cases hrow : row.id = other <;> simp [hrow, h]

/-! ## Order is kept -/

/-- Order is a matter of the live rows alone. -/
theorem Ordered.of_jobs {tables after : Tables} (h : tables.Ordered) (hjobs : after.jobs = tables.jobs)
    (hlast : after.lastJobId = tables.lastJobId) : after.Ordered where
  sorted := hjobs ▸ h.sorted
  handedOut := by
    rw [hjobs, hlast]
    exact h.handedOut

theorem Ordered.insertJob {tables : Tables} (h : tables.Ordered) {row : Int → Row}
    (hrow : ∀ n, (row n).id = n) : (tables.insertJob row).2.Ordered where
  sorted := by
    refine List.pairwise_append.mpr ⟨h.sorted, List.pairwise_singleton _ _, fun a ha b hb => ?_⟩
    have := h.handedOut a ha
    rw [List.mem_singleton.mp hb, hrow]
    omega
  handedOut := by
    intro a ha
    rcases List.mem_append.mp ha with hold | hnew
    · have := h.handedOut a hold
      simp only [Tables.insertJob]
      omega
    · rw [List.mem_singleton.mp hnew, hrow]
      exact Int.le_refl _

theorem Ordered.updateJobs {tables : Tables} (h : tables.Ordered) (picks : Row → Bool)
    {change : Row → Row} (hid : ∀ row, (change row).id = row.id) :
    (tables.updateJobs picks change).2.Ordered := by
  have hkeep : ∀ row : Row, (if picks row then change row else row).id = row.id := by
    intro row
    split
    · exact hid row
    · rfl
  refine ⟨List.pairwise_map.mpr (h.sorted.imp fun hlt => ?_), fun row hrow => ?_⟩
  · rw [hkeep, hkeep]
    exact hlt
  · obtain ⟨old, hold, rfl⟩ := List.mem_map.mp hrow
    rw [hkeep]
    exact h.handedOut old hold

theorem Ordered.deleteJob {tables : Tables} (h : tables.Ordered) (id : Int) :
    (tables.deleteJob id).2.Ordered where
  sorted := h.sorted.filter _
  handedOut row hrow := h.handedOut row (List.mem_filter.mp hrow).1

theorem Ordered.record {tables : Tables} (h : tables.Ordered) (entry : LedgerEntry) :
    (tables.record entry).Ordered := by
  unfold Tables.record
  split
  · exact h
  · exact h.of_jobs rfl rfl

/-! ## The row that is claimed -/

theorem foldl_earliest_mem (rows : List Row) (best : Option Row) {row : Row}
    (h : rows.foldl
      (fun best row =>
        match best with
        | none => some row
        | some b => if row.claimedBefore b then some row else some b)
      best = some row) : best = some row ∨ row ∈ rows := by
  induction rows generalizing best with
  | nil => exact Or.inl h
  | cons first rest ih =>
    rcases ih _ h with hnext | hmem
    · cases best with
      | none =>
        cases hnext
        exact Or.inr List.mem_cons_self
      | some b =>
        dsimp only at hnext
        split at hnext <;> cases hnext
        · exact Or.inr List.mem_cons_self
        · exact Or.inl rfl
    · exact Or.inr (List.mem_cons_of_mem _ hmem)

/-- A claim takes a row that is there, pending and due. -/
theorem candidate?_spec {tables : Tables} {now : Instant} {row : Row}
    (h : tables.candidate? now = some row) : row ∈ tables.jobs ∧ row.isDue now = true := by
  rcases foldl_earliest_mem _ _ h with hnone | hmem
  · cases hnone
  · exact List.mem_filter.mp hmem

/-- Once a row has been found, the search for the next one ends with a row. -/
theorem foldl_earliest_ne_none (rows : List Row) (best : Row) :
    rows.foldl
      (fun best row =>
        match best with
        | none => some row
        | some b => if row.claimedBefore b then some row else some b)
      (some best) ≠ none := by
  induction rows generalizing best with
  | nil => exact Option.some_ne_none best
  | cons first rest ih =>
    rw [List.foldl_cons]
    dsimp only
    split <;> exact ih _

/-- Where no job can be claimed, none is due. -/
theorem not_due_of_idle {tables : Tables} {now : Instant} (h : tables.candidate? now = none)
    {row : Row} (hrow : row ∈ tables.jobs) : row.isDue now = false := by
  rw [← Bool.not_eq_true]
  intro hdue
  have hmem : row ∈ tables.jobs.filter (·.isDue now) := List.mem_filter.mpr ⟨hrow, hdue⟩
  rw [candidate?] at h
  generalize tables.jobs.filter (·.isDue now) = rows at h hmem
  cases rows with
  | nil => cases hmem
  | cons first rest => exact foldl_earliest_ne_none rest first h

end Tables

/-! ## Reading a row -/

theorem Row.answer_eq_ok {row : Row} {job : Job} : row.answer = .ok job ↔ row.read? = some job := by
  unfold Row.answer
  cases row.read? <;> simp

/-- A row that can be read is read as it stands. -/
theorem Row.read?_spec {row : Row} {job : Job} (h : row.read? = some job) :
    job.id = row.id ∧ job.attemptCount = row.attemptCount := by
  unfold Row.read? at h
  split at h
  · cases h
    exact ⟨rfl, rfl⟩
  · cases h

theorem Row.read?_maxAttempts {row : Row} {job : Job} (h : row.read? = some job) :
    job.maxAttempts = row.maxAttempts := by
  unfold Row.read? at h
  split at h
  · cases h
    rfl
  · cases h

/-! ## Statuses -/

theorem status_of_name {a b : Status} (h : a.name = b.name) : a = b := by
  have hname := congrArg Status.ofName? h
  rw [Status.ofName?_name, Status.ofName?_name] at hname
  exact Option.some.inj hname

/-- A row has one status. -/
theorem Row.hasStatus_unique {row : Row} {a b : Status} (ha : row.hasStatus a = true)
    (hb : row.hasStatus b = true) : a = b :=
  status_of_name ((beq_iff_eq.mp ha).symm.trans (beq_iff_eq.mp hb))

theorem Row.pending_of_isDue {row : Row} {now : Instant} (h : row.isDue now = true) :
    row.hasStatus .pending = true :=
  (Bool.and_eq_true_iff.mp h).1

/-! ## Changes of the tables and fates of rows -/

variable {now : Instant} {tables after : Tables} {operation : Operation}
  {reply : Except StoreError Reply}

theorem Change.ordered (h : Change now tables operation reply after) (ho : tables.Ordered) :
    after.Ordered := by
  cases h with
  | failed | looked | idle => exact ho
  | discarded | purged => exact ho.of_jobs rfl rfl
  | enqueued => exact ho.insertJob fun _ => rfl
  | claimed => exact ho.updateJobs _ fun _ => rfl
  | completed => exact ho.updateJobs _ fun _ => rfl
  | rescheduled => exact ho.updateJobs _ fun _ => rfl
  | buried => exact ho.updateJobs _ fun _ => rfl
  | recorded => exact ho.record _
  | settled => exact (ho.record _).updateJobs _ fun _ => rfl
  | reclaimed => exact ho.updateJobs _ fun _ => rfl
  | cancelled => exact ho.updateJobs _ fun _ => rfl
  | archived job lastError =>
    have hletter : (tables.insertDeadLetter (letterOf job lastError now)).2.Ordered :=
      ho.of_jobs rfl rfl
    exact hletter.deleteJob job.id
  | restored _ attempts letter =>
    have hjob : (tables.insertJob (Row.fresh (jobOfLetter letter) attempts now)).2.Ordered :=
      ho.insertJob fun _ => rfl
    exact hjob.of_jobs rfl rfl

theorem Change.lastJobId_le (h : Change now tables operation reply after) :
    tables.lastJobId ≤ after.lastJobId := by
  have hrecord : ∀ entry, (tables.record entry).lastJobId = tables.lastJobId := by
    intro entry
    unfold Tables.record
    split <;> rfl
  cases h with
  | enqueued | restored =>
    change tables.lastJobId ≤ tables.lastJobId + 1
    omega
  | recorded id => exact Int.le_of_eq (hrecord ⟨id, now⟩).symm
  | settled id => exact Int.le_of_eq (hrecord ⟨id, now⟩).symm
  | _ => exact Int.le_refl _

/-- What can become of the row of an id when an operation is carried out: the row before and the row
behind it. `last` is the last id that has been handed out. -/
inductive Fate (now : Instant) (last id : Int) :
    Operation → Except StoreError Reply → Option Row → Option Row → Prop where
  | kept (operation : Operation) (reply : Except StoreError Reply) (row? : Option Row) :
      Fate now last id operation reply row? row?
  | created (operation : Operation) (reply : Except StoreError Reply) (job : NewJob) (attempts : Int)
      (inserts : operation.inserts = true) (new : id = last + 1) :
      Fate now last id operation reply none (some (Row.fresh job attempts now id))
  | claimed (row : Row) (due : row.isDue now = true) (reply : Except StoreError Reply) :
      Fate now last id .claimNext reply (some row) (some (row.claimed now))
  | completed (row : Row) (operation : Operation)
      (names : operation = .markCompleted id ∨ operation = .completeProcessed id) :
      Fate now last id operation (.ok .done) (some row) (some (row.completed now))
  | rescheduled (row : Row) (error : String) (retryAt : Instant) :
      Fate now last id (.markFailed id error retryAt) (.ok .done) (some row)
        (some (row.rescheduled error retryAt now))
  | buried (row : Row) (error : String) :
      Fate now last id (.markDead id error) (.ok .done) (some row) (some (row.dead error now))
  | reclaimed (row : Row) (olderThan : Int) (stuck : row.hasStatus .processing = true)
      (reply : Except StoreError Reply) :
      Fate now last id (.reclaimStuck olderThan) reply (some row) (some (row.reclaimed now))
  | cancelled (row : Row) (waiting : row.hasStatus .pending = true) (reply : Except StoreError Reply) :
      Fate now last id (.cancel id) reply (some row) (some (row.cancelled now))
  | archived (row : Row) (job : Job) (lastError : String) (names : job.id = id) (letter : DeadLetter) :
      Fate now last id (.archive job lastError) (.ok (.letter letter)) (some row) none

/-- A write to the rows that a test picks keeps the row of an id or changes it. -/
theorem Fate.of_update {id last : Int} {picks : Row → Bool} {change : Row → Row}
    (hid : ∀ row, (change row).id = row.id)
    (h : ∀ row, tables.job? id = some row → picks row = true →
      Fate now last id operation reply (some row) (some (change row))) :
    Fate now last id operation reply (tables.job? id)
      ((tables.updateJobs picks change).2.job? id) := by
  rw [tables.updateJobs_job? picks change id hid]
  cases hrow : tables.job? id with
  | none => exact .kept _ _ _
  | some row =>
    rw [Option.map_some]
    split
    · next hpick => exact h row hrow hpick
    · exact .kept _ _ _

theorem Fate.of_insert {id : Int} (ho : tables.Ordered) (job : NewJob) (attempts : Int)
    (hinserts : operation.inserts = true) :
    Fate now tables.lastJobId id operation reply (tables.job? id)
      ((tables.insertJob (Row.fresh job attempts now)).2.job? id) := by
  rw [tables.insertJob_job? _ id fun _ => rfl]
  split
  · next hnew =>
    rw [ho.job?_of_fresh (by omega)]
    exact .created _ _ job attempts hinserts hnew
  · rw [Option.or_none]
    exact .kept _ _ _

/-- **The fate of a row**: whatever is done, the row of an id goes one of these ways. -/
theorem Change.fate (h : Change now tables operation reply after) (ho : tables.Ordered) (id : Int) :
    Fate now tables.lastJobId id operation reply (tables.job? id) (after.job? id) := by
  have hnamed : ∀ {other : Int} {row : Row}, tables.job? id = some row →
      (row.id == other) = true → other = id := by
    intro other row hrow hother
    rw [← (Tables.mem_of_job? hrow).2]
    exact (beq_iff_eq.mp hother).symm
  cases h with
  | failed | looked | idle => exact .kept _ _ _
  | discarded | purged => exact .kept _ _ _
  | enqueued job attempts => exact .of_insert ho job attempts rfl
  | claimed row hfirst =>
    -- the row that is found under the id is the candidate, since ids are not shared
    obtain ⟨hmem, hdue⟩ := Tables.candidate?_spec hfirst
    refine .of_update (fun _ => rfl) fun found hfound hpick => ?_
    have hid := hnamed hfound hpick
    rw [← hid, ho.job?_of_mem hmem] at hfound
    cases hfound
    exact .claimed row hdue _
  | completed other =>
    refine .of_update (fun _ => rfl) fun row hrow hpick => ?_
    cases hnamed hrow hpick
    exact .completed row _ (Or.inl rfl)
  | rescheduled other error retryAt =>
    refine .of_update (fun _ => rfl) fun row hrow hpick => ?_
    cases hnamed hrow hpick
    exact .rescheduled row error retryAt
  | buried other error =>
    refine .of_update (fun _ => rfl) fun row hrow hpick => ?_
    cases hnamed hrow hpick
    exact .buried row error
  | recorded other =>
    rw [record_job?]
    exact .kept _ _ _
  | settled other =>
    rw [← record_job? tables ⟨other, now⟩ id]
    refine .of_update (fun _ => rfl) fun row hrow hpick => ?_
    rw [record_job?] at hrow
    cases hnamed hrow hpick
    exact .completed row _ (Or.inr rfl)
  | reclaimed olderThan threshold =>
    refine .of_update (fun _ => rfl) fun row _ hpick => ?_
    exact .reclaimed row olderThan (Bool.and_eq_true_iff.mp hpick).1 _
  | cancelled other =>
    refine .of_update (fun _ => rfl) fun row hrow hpick => ?_
    obtain ⟨hother, hwaiting⟩ := Bool.and_eq_true_iff.mp hpick
    cases hnamed hrow hother
    exact .cancelled row hwaiting _
  | archived job lastError =>
    rw [Tables.deleteJob_job?]
    split
    · next hid =>
      change Fate _ _ _ _ _ (tables.job? id) none
      cases hrow : tables.job? id with
      | none => exact .kept _ _ _
      | some row => exact .archived row job lastError hid.symm _
    · exact .kept _ _ _
  | restored _ attempts letter => exact .of_insert ho (jobOfLetter letter) attempts rfl

/-- A claim that answers a job has met its row, due, and read it as the claim left it. -/
theorem Change.claimed_row {job : Job}
    (h : Change now tables .claimNext (.ok (.claimed (some job))) after) (ho : tables.Ordered) :
    ∃ row, tables.job? job.id = some row ∧ row.isDue now = true ∧
      after.job? job.id = some (row.claimed now) ∧ (row.claimed now).read? = some job := by
  generalize hanswer : Except.ok (Reply.claimed (some job)) = reply at h
  cases h with
  | failed => cases hanswer
  | looked _ _ hlooks => cases hlooks
  | idle => cases hanswer
  | claimed row hfirst =>
    obtain ⟨hmem, hdue⟩ := Tables.candidate?_spec hfirst
    have hread : (row.claimed now).answer = .ok job := by
      cases hrow : (row.claimed now).answer with
      | error => simp [hrow, Except.map] at hanswer
      | ok read => simpa [hrow, Except.map, eq_comm] using hanswer
    have hread := Row.answer_eq_ok.mp hread
    have hlookup : tables.job? job.id = some row := (Row.read?_spec hread).1 ▸ ho.job?_of_mem hmem
    refine ⟨row, hlookup, hdue, ?_, hread⟩
    rw [Tables.updateJobs_job? _ _ (·.claimed now) _ fun _ => rfl, hlookup]
    simp

/-- A claim that answers a job has met its row, pending, and has counted itself. -/
theorem Change.claimed_spec {job : Job}
    (h : Change now tables .claimNext (.ok (.claimed (some job))) after) (ho : tables.Ordered) :
    ∃ row, tables.job? job.id = some row ∧ row.hasStatus .pending = true ∧
      after.job? job.id = some (row.claimed now) ∧ job.attemptCount = row.attemptCount + 1 := by
  obtain ⟨row, hbefore, hdue, hafter, hread⟩ := h.claimed_row ho
  exact ⟨row, hbefore, Row.pending_of_isDue hdue, hafter, (Row.read?_spec hread).2⟩

end DurableJobs.Store
