import DurableJobs.Proofs.Store.AllOrNothing
import DurableJobs.Proofs.Store.Ledger
import DurableJobs.Proofs.Store.Whereabouts
import DurableJobs.Proofs.Time.StoredOrder

/-!
# The order of claims

A claim takes the due row that comes first. Which one that is gets decided by texts, one comparison at a
time, in a single pass over the due rows. As long as the times lie in years of four digits the texts
compare as the times do, at whatever offset a caller has written them, so the pass ends with the row that
is first by time and then by id (`candidate?_first`).

The claim is written before the row is read. A row whose count goes beyond 32 bits with it is claimed, and
the caller is told of an error.
-/

set_option autoImplicit false

namespace DurableJobs.Store

/-! ## First in time -/

/-- Earlier in time, or at one time and put in earlier. -/
def Row.Precedes (a b : Row) : Prop :=
  a.runAt.shown.before b.runAt.shown = true ∨ a.runAt.shown = b.runAt.shown ∧ a.id < b.id

/-- Pending, and its time has come. -/
def Row.Due (row : Row) (now : Instant) : Prop :=
  row.hasStatus .pending = true ∧ now.shown.before row.runAt.shown = false

variable {a b c row : Row} {now : Instant} {tables : Tables}

theorem precedes_iff :
    a.Precedes b ↔ a.runAt.shown.seconds < b.runAt.shown.seconds ∨
      a.runAt.shown.seconds = b.runAt.shown.seconds ∧
        (a.runAt.shown.nanos < b.runAt.shown.nanos ∨
          a.runAt.shown.nanos = b.runAt.shown.nanos ∧ a.id < b.id) := by
  rw [Row.Precedes]
  generalize a.runAt.shown = s
  generalize b.runAt.shown = t
  obtain ⟨seconds, nanos, _⟩ := s
  obtain ⟨seconds', nanos', _⟩ := t
  simp only [Instant.before_iff, Instant.mk.injEq]
  omega

theorem claimedBefore_iff (ha : a.runAt.Dated) (hb : b.runAt.Dated) :
    a.claimedBefore b = true ↔ a.Precedes b := by
  rw [Row.claimedBefore, Bool.or_eq_true_iff, Bool.and_eq_true_iff, Bool.not_eq_true',
    ← Bool.not_eq_true, ha.storedBefore_iff hb, hb.storedBefore_iff ha, decide_eq_true_iff, precedes_iff,
    Instant.before_iff, Instant.before_iff]
  omega

theorem isDue_iff (hrow : row.runAt.Dated) (hnow : now.Dated) : row.isDue now = true ↔ row.Due now := by
  rw [Row.isDue, Bool.and_eq_true_iff, storedAtMost, Bool.not_eq_true', ← Bool.not_eq_true,
    hnow.storedBefore_iff hrow, Bool.not_eq_true]
  exact Iff.rfl

/-- What comes before a row that is due is due. -/
theorem Row.Due.of_not_precedes (hb : b.Due now) (ha : a.hasStatus .pending = true)
    (h : ¬ b.Precedes a) : a.Due now := by
  obtain ⟨-, hbnow⟩ := hb
  refine ⟨ha, ?_⟩
  rw [← Bool.not_eq_true, Instant.before_iff] at hbnow ⊢
  rw [precedes_iff] at h
  omega

namespace Tables

/-- The search ends with a row that no row of the list precedes, and not the best one before it. -/
theorem foldl_earliest_first {rows : List Row} {best first : Row} (hbest : best.runAt.Dated)
    (hrows : ∀ row ∈ rows, row.runAt.Dated)
    (h : rows.foldl
      (fun best row =>
        match best with
        | none => some row
        | some b => if row.claimedBefore b then some row else some b)
      (some best) = some first) : ∀ row ∈ best :: rows, ¬ row.Precedes first := by
  induction rows generalizing best with
  | nil =>
    cases h
    intro row hrow
    rw [List.mem_singleton.mp hrow, precedes_iff]
    omega
  | cons next rest ih =>
    obtain ⟨hnext, hrest⟩ := List.forall_mem_cons.mp hrows
    rw [List.foldl_cons] at h
    dsimp only at h
    -- whichever of the two is dropped, the other one is not behind it
    by_cases hless : next.claimedBefore best = true
    · rw [if_pos hless] at h
      have hafter := ih hnext hrest h
      have hfirst := hafter next List.mem_cons_self
      rw [claimedBefore_iff hnext hbest] at hless
      refine List.forall_mem_cons.mpr ⟨?_, hafter⟩
      rw [precedes_iff] at *
      omega
    · rw [if_neg hless] at h
      have hafter := ih hbest hrest h
      obtain ⟨hfirst, hothers⟩ := List.forall_mem_cons.mp hafter
      rw [claimedBefore_iff hnext hbest] at hless
      refine List.forall_mem_cons.mpr ⟨hfirst, List.forall_mem_cons.mpr ⟨?_, hothers⟩⟩
      rw [precedes_iff] at *
      omega

/-- **The row that is claimed** is due, and no pending row comes before it. -/
theorem candidate?_first (hnow : now.Dated)
    (hpending : ∀ row ∈ tables.jobs, row.hasStatus .pending = true → row.runAt.Dated) {first : Row}
    (h : tables.candidate? now = some first) :
    first ∈ tables.jobs ∧ first.Due now ∧
      ∀ row ∈ tables.jobs, row.hasStatus .pending = true → ¬ row.Precedes first := by
  obtain ⟨hmem, hisDue⟩ := candidate?_spec h
  have hfirst := hpending first hmem (Row.pending_of_isDue hisDue)
  have hdue := (isDue_iff hfirst hnow).mp hisDue
  have hdated : ∀ row ∈ tables.jobs.filter (·.isDue now), row.runAt.Dated := by
    intro row hrow
    obtain ⟨hjobs, hrow⟩ := List.mem_filter.mp hrow
    exact hpending row hjobs (Row.pending_of_isDue hrow)
  have hleast : ∀ row ∈ tables.jobs.filter (·.isDue now), ¬ row.Precedes first := by
    rw [candidate?] at h
    generalize tables.jobs.filter (·.isDue now) = rows at h hdated
    cases rows with
    | nil => exact List.forall_mem_nil _
    | cons best rest =>
      obtain ⟨hbest, hrest⟩ := List.forall_mem_cons.mp hdated
      exact foldl_earliest_first hbest hrest h
  refine ⟨hmem, hdue, fun row hrow hwaits hprecedes => ?_⟩
  -- a row before one that is due is due itself, so the search has met it
  have hrowDue : row.Due now := by
    refine hdue.of_not_precedes hwaits ?_
    rw [precedes_iff] at *
    omega
  refine hleast row (List.mem_filter.mpr ⟨hrow, ?_⟩) hprecedes
  exact (isDue_iff (hpending row hrow hwaits) hnow).mpr hrowDue

theorem candidate?_eq_none_iff (hnow : now.Dated)
    (hpending : ∀ row ∈ tables.jobs, row.hasStatus .pending = true → row.runAt.Dated) :
    tables.candidate? now = none ↔ ∀ row ∈ tables.jobs, ¬ row.Due now := by
  constructor
  · intro h row hrow hdue
    have hisDue := (isDue_iff (hpending row hrow hdue.1) hnow).mpr hdue
    rw [not_due_of_idle h hrow] at hisDue
    cases hisDue
  · intro hnone
    cases h : tables.candidate? now with
    | none => rfl
    | some first =>
      obtain ⟨hmem, hdue, -⟩ := candidate?_first hnow hpending h
      exact absurd hdue (hnone first hmem)

end Tables

/-! ## Rows with distinct ids -/

/-- Of two rows with ids of their own one precedes the other. -/
theorem Row.precedes_of_not (hid : a.id ≠ b.id) (h : ¬ a.Precedes b) : b.Precedes a := by
  rw [precedes_iff] at *
  omega

theorem Tables.Ordered.eq_of_id (h : tables.Ordered) (ha : a ∈ tables.jobs) (hb : b ∈ tables.jobs)
    (hid : a.id = b.id) : a = b := by
  have hlookup := h.job?_of_mem ha
  rw [hid, h.job?_of_mem hb] at hlookup
  exact (Option.some.inj hlookup).symm

/-! ## A claim -/

/-- A claim that no statement of fails. -/
theorem perform_claimNext (h : tables.has .jobs = true) (now : Instant) :
    (claimNext now).perform tables =
      match tables.candidate? now with
      | none => (.ok none, tables)
      | some row =>
          ((row.claimed now).answer.map some, (tables.updateJobs (·.id == row.id) (·.claimed now)).2) := by
  rw [Call.perform, claimNext, Call.execute_bind, execute_statement, if_neg (by simp [h])]
  cases tables.candidate? now with
  | none => rfl
  | some row =>
    simp only [Call.execute_bind, execute_readRow, Row.answer]
    cases (row.claimed now).read? <;> rfl

/-- The rows behind a claim: one has been replaced, where it stood. -/
theorem updateJobs_claimed (ho : tables.Ordered) (hrow : row ∈ tables.jobs) (now : Instant) :
    (tables.updateJobs (·.id == row.id) (·.claimed now)).2 =
      { tables with jobs := tables.jobs.map fun other => if other = row then row.claimed now else other } := by
  refine congrArg (fun jobs => { tables with jobs }) (List.map_congr_left fun other hother => ?_)
  by_cases h : other.id = row.id
  · have heq := ho.eq_of_id hother hrow h
    rw [if_pos (beq_iff_eq.mpr h), if_pos heq, heq]
  · have hne : other ≠ row := fun heq => h (congrArg Row.id heq)
    rw [if_neg (by simpa using h), if_neg hne]

/-! ## Counters of rows -/

/-- The attempts that every row is allowed fit a job. -/
def Sized (tables : Tables) : Prop := ∀ row ∈ tables.jobs, fitsCounter row.maxAttempts = true

theorem Sized.updateJobs (h : Sized tables) {picks : Row → Bool} {change : Row → Row}
    (hkeeps : ∀ row, (change row).maxAttempts = row.maxAttempts) :
    Sized (tables.updateJobs picks change).2 := by
  intro row hrow
  obtain ⟨old, hold, rfl⟩ := List.mem_map.mp hrow
  split
  · rw [hkeeps]
    exact h old hold
  · exact h old hold

theorem Sized.insertJob (h : Sized tables) {new : Int → Row}
    (hnew : ∀ id, fitsCounter (new id).maxAttempts = true) : Sized (tables.insertJob new).2 := by
  intro row hrow
  rcases List.mem_append.mp hrow with hold | hlast
  · exact h row hold
  · rw [List.mem_singleton.mp hlast]
    exact hnew _

theorem Sized.record (h : Sized tables) (entry : LedgerEntry) : Sized (tables.record entry) := by
  unfold Tables.record
  split <;> exact h

/-- A change keeps the sizes if its caller has given counters of that size. -/
theorem Change.sized {after : Tables} {operation : Operation} {reply : Except StoreError Reply}
    (h : Change now tables operation reply after) (hsized : Sized tables)
    (hfits : operation.fits = true) : Sized after := by
  cases h with
  | failed | looked | idle | discarded | purged => exact hsized
  | enqueued => exact hsized.insertJob fun _ => hfits
  | restored _ attempts letter job _ hreadable =>
    have hsome := congrArg Option.isSome hreadable
    rw [Row.fresh_read?_isSome] at hsome
    exact hsized.insertJob fun _ => hsome
  | claimed | completed | rescheduled | buried | reclaimed | cancelled =>
    exact hsized.updateJobs fun _ => rfl
  | recorded => exact hsized.record _
  | settled => exact (hsized.record _).updateJobs fun _ => rfl
  | archived => exact fun row hrow => hsized row (List.mem_filter.mp hrow).1

theorem sized_run (requests : List Request)
    (hfits : ∀ request ∈ requests, request.operation.fits = true) :
    Sized (Tables.empty.afterAll requests) :=
  @Run.invariant _ _ Tables.after (fun request => request.operation.fits = true)
    (fun _ tables => Sized tables) Tables.empty (fun _ h => nomatch h)
    (fun _ tables request hfits hsized =>
      (Exchange.change ⟨tables, request⟩).sized hsized hfits) requests hfits

/-- A claimed row can be read unless its count has left 32 bits. -/
theorem claimed_answer (hallowed : fitsCounter row.maxAttempts = true) (hcount : 0 ≤ row.attemptCount)
    (now : Instant) :
    if row.attemptCount < 2147483647 then
      ∃ job, (row.claimed now).read? = some job ∧ (row.claimed now).answer.map some = .ok (some job)
    else (row.claimed now).answer.map some = .error .database := by
  have hraised : fitsCounter (row.claimed now).attemptCount =
      decide (row.attemptCount < 2147483647) := by
    rw [Bool.eq_iff_iff, decide_eq_true_iff, fitsCounter, fitsSigned_iff]
    show -2147483648 ≤ row.attemptCount + 1 ∧ row.attemptCount + 1 ≤ 2147483647 ↔ _
    omega
  have hsame : fitsCounter (row.claimed now).maxAttempts = true := hallowed
  by_cases hlimit : row.attemptCount < 2147483647
  · simp [Row.answer, Row.read?, hraised, hsame, hlimit, Except.map]
  · simp [Row.answer, Row.read?, hraised, hlimit, Except.map]

/-! ## Callers -/

/-- What a caller asks for. It gives its times at an offset of its own. -/
inductive Ask where
  | enqueue (job : NewJob) (runAt : Option Timestamp) (defaultMaxAttempts : Int)
  | markFailed (id : Int) (error : String) (retryAt : Timestamp)
  | other (operation : Operation)

/-- What the store is asked: of a time it takes the instant. -/
def Ask.operation : Ask → Operation
  | enqueue job runAt attempts => .enqueue { job with runAt := runAt.map (·.instant) } attempts
  | markFailed id error retryAt => .markFailed id error retryAt.instant
  | other operation => operation

/-- A question with a reading of the clock and the statements that the database fails. -/
structure Asked where
  ask : Ask
  now : Instant
  faults : List Bool

def Asked.request (asked : Asked) : Request := ⟨asked.ask.operation, asked.now, asked.faults⟩

/-- The store behind what has been asked of it. -/
def tablesBehind (asked : List Asked) : Tables := Tables.empty.afterAll (asked.map Asked.request)

/-- **Claims are made in order.** Behind every run of the store whose callers give counters of 32 bits
and times at any offset, as long as the clock and the times of the pending rows lie in the years 0000 to
9999:

* a claim answers that there is none, and changes nothing, if and only if no row is due;
* if any is due, the claim takes the one that no pending row precedes, by its time and then by its id.
  That row has been set to processing, started and changed now, and tried once more; nothing else has
  changed. The claim answers the row, unless its count has left 32 bits: then the claim stands, and the
  answer is an error. -/
theorem claims_in_order (asked : List Asked) (hfits : ∀ a ∈ asked, a.ask.operation.fits = true)
    (now : Instant) (hnow : now.Dated)
    (hpending : ∀ row ∈ (tablesBehind asked).jobs, row.hasStatus .pending = true → row.runAt.Dated) :
    ((claimNext now).perform (tablesBehind asked) = (.ok none, tablesBehind asked) ↔
      ∀ row ∈ (tablesBehind asked).jobs, ¬ row.Due now) ∧
    ((∃ row ∈ (tablesBehind asked).jobs, row.Due now) →
      ∃ first ∈ (tablesBehind asked).jobs, first.Due now ∧
        (∀ row ∈ (tablesBehind asked).jobs, row.hasStatus .pending = true → row ≠ first →
          first.Precedes row) ∧
        let claimed : Row :=
          { first with
            status := Status.processing.name
            startedAt := some now
            updatedAt := now
            attemptCount := first.attemptCount + 1 }
        ((claimNext now).perform (tablesBehind asked)).2 =
          { tablesBehind asked with
            jobs := (tablesBehind asked).jobs.map fun row => if row = first then claimed else row } ∧
        if first.attemptCount < 2147483647 then
          ∃ job, claimed.read? = some job ∧
            ((claimNext now).perform (tablesBehind asked)).1 = .ok (some job)
        else ((claimNext now).perform (tablesBehind asked)).1 = .error .database) := by
  have hcounted := counted_run (asked.map Asked.request)
  have hsized := sized_run (asked.map Asked.request) (List.forall_mem_map.mpr hfits)
  have hthere : (tablesBehind asked).has .jobs = true := by
    rw [Tables.has, tablesBehind, (booked_run (asked.map Asked.request)).migrated]
    rfl
  have ho : (tablesBehind asked).Ordered := hcounted.ordered
  have hclaim := perform_claimNext hthere now
  constructor
  · rw [← Tables.candidate?_eq_none_iff hnow hpending, hclaim]
    cases hfirst : (tablesBehind asked).candidate? now with
    | none => exact iff_of_true rfl rfl
    | some first =>
      refine iff_of_false (fun h => ?_) (Option.some_ne_none first)
      have hanswer := congrArg Prod.fst h
      dsimp only at hanswer
      cases hread : (first.claimed now).answer <;> rw [hread] at hanswer <;> cases hanswer
  · rintro ⟨row, hrow, hdue⟩
    cases hfirst : (tablesBehind asked).candidate? now with
    | none => exact absurd hdue ((Tables.candidate?_eq_none_iff hnow hpending).mp hfirst row hrow)
    | some first =>
      obtain ⟨hmem, hfirstDue, hleast⟩ := Tables.candidate?_first hnow hpending hfirst
      rw [hfirst] at hclaim
      refine ⟨first, hmem, hfirstDue, fun other hother hwaits hne => ?_, ?_, ?_⟩
      · refine Row.precedes_of_not (fun hid => hne ?_) (hleast other hother hwaits)
        exact ho.eq_of_id hother hmem hid
      · rw [hclaim]
        exact updateJobs_claimed ho hmem now
      · rw [hclaim]
        refine claimed_answer (hsized first hmem) ?_ now
        rw [hcounted.counts first.id first (ho.job?_of_mem hmem)]
        exact Int.natCast_nonneg _

/-- Three jobs whose times are written at three offsets. The second and the third are due at one time, a
quarter of a second before the first one. -/
def threeOffsets : List Asked :=
  let at_ (nanos : Nat) (h : nanos < 2000000000) (offset : Int) : Timestamp := ⟨⟨7200, nanos, h⟩, offset⟩
  let enqueue (runAt : Timestamp) : Asked :=
    ⟨.enqueue ⟨"a", [], none, none, none, none⟩ (some runAt) standardMaxAttempts, wholeSecond 0, []⟩
  [enqueue (at_ 500000000 (by decide) 7200), enqueue (at_ 250000000 (by decide) 0),
   enqueue (at_ 250000000 (by decide) (-12600))]

instance (row : Row) (now : Instant) : Decidable (row.Due now) :=
  inferInstanceAs (Decidable (_ ∧ _))

instance (a b : Row) : Decidable (a.Precedes b) := inferInstanceAs (Decidable (_ ∨ _ ∧ _))

theorem claims_in_order_threeOffsets :
    ∃ job, ((claimNext (wholeSecond 9000)).perform (tablesBehind threeOffsets)).1 = .ok (some job) ∧
      job.id = 2 := by
  have hlaw := claims_in_order threeOffsets (by decide) (wholeSecond 9000) (by decide) (by decide)
  obtain ⟨first, hmem, -, hleast, -, hanswer⟩ := hlaw.2 (by decide)
  have hfirst : first.id = 2 ∧ first.attemptCount < 2147483647 := by
    clear hanswer
    revert first
    decide
  rw [if_pos hfirst.2] at hanswer
  obtain ⟨job, hread, hclaim⟩ := hanswer
  exact ⟨job, hclaim, (Row.read?_spec hread).1.trans hfirst.1⟩

/-! ## Counts beyond 32 bits -/

/-- The row of a job that has failed so many times. -/
def failedRow (count : Int) (lastError : Option String) (startedAt : Option Instant) : Row :=
  { Row.fresh ⟨"a", [], none, none, none, none⟩ standardMaxAttempts (wholeSecond 0) 1 with
    attemptCount := count, lastError, startedAt }

/-- The store with this one row. -/
def worn (row : Row) : Tables := { Tables.empty with jobs := [row], lastJobId := 1 }

/-- A claim and a failure, so many times. -/
def failures : Nat → List Asked
  | 0 => []
  | n + 1 =>
      ⟨.other .claimNext, wholeSecond 0, []⟩ ::
        ⟨.markFailed 1 "busy" (.utc (wholeSecond 0)), wholeSecond 0, []⟩ :: failures n

/-- A job that is put in and fails so many times. -/
def wornOut (n : Nat) : List Asked :=
  ⟨.enqueue ⟨"a", [], none, none, none, none⟩ none standardMaxAttempts, wholeSecond 0, []⟩ :: failures n

theorem worn_candidate (count : Int) (lastError : Option String) (startedAt : Option Instant) :
    (worn (failedRow count lastError startedAt)).candidate? (wholeSecond 0) =
      some (failedRow count lastError startedAt) := by
  have htime : storedAtMost (wholeSecond 0) (wholeSecond 0) = true := by decide
  have hdue : (failedRow count lastError startedAt).isDue (wholeSecond 0) = true :=
    Bool.and_eq_true_iff.mpr ⟨rfl, htime⟩
  simp [Tables.candidate?, worn, hdue]

theorem worn_perform_claimNext (count : Int) (lastError : Option String) (startedAt : Option Instant) :
    (claimNext (wholeSecond 0)).perform (worn (failedRow count lastError startedAt)) =
      (((failedRow count lastError startedAt).claimed (wholeSecond 0)).answer.map some,
        worn ((failedRow count lastError startedAt).claimed (wholeSecond 0))) := by
  have hthere : (worn (failedRow count lastError startedAt)).has .jobs = true := rfl
  rw [perform_claimNext hthere, worn_candidate]
  simp [worn, Tables.updateJobs]

theorem after_claimNext (tables : Tables) (now : Instant) :
    tables.after ⟨.claimNext, now, []⟩ = ((claimNext now).perform tables).2 := by
  show ((Operation.claimNext.call now).execute ⟨tables, []⟩).2.tables = _
  rw [Operation.call, Call.execute_map]
  rfl

theorem worn_after_markFailed (h : row.id = 1) (error : String) (retryAt now : Instant) :
    (worn row).after ⟨.markFailed 1 error retryAt, now, []⟩ = worn (row.rescheduled error retryAt now) := by
  have hthere : (worn row).has .jobs = true := rfl
  show (((Operation.markFailed 1 error retryAt).call now).execute ⟨worn row, []⟩).2.tables = _
  rw [Operation.call, Call.execute_map, markFailed, amend, Call.execute_bind, execute_statement,
    if_neg (by simp [hthere])]
  simp [worn, Tables.updateJobs, h]
  rfl

/-- A failure counts, and leaves the job to be claimed again. -/
theorem worn_after_failure (count : Int) (lastError : Option String) (startedAt : Option Instant) :
    ((worn (failedRow count lastError startedAt)).after ⟨.claimNext, wholeSecond 0, []⟩).after
        ⟨.markFailed 1 "busy" (wholeSecond 0), wholeSecond 0, []⟩ =
      worn (failedRow (count + 1) (some "busy") (some (wholeSecond 0))) := by
  rw [after_claimNext, worn_perform_claimNext, worn_after_markFailed rfl]
  rfl

theorem worn_failures (n : Nat) (count : Int) (lastError : Option String) (startedAt : Option Instant) :
    ∃ lastError' startedAt',
      (worn (failedRow count lastError startedAt)).afterAll ((failures n).map Asked.request) =
        worn (failedRow (count + n) lastError' startedAt') := by
  induction n generalizing count lastError startedAt with
  | zero => exact ⟨lastError, startedAt, by rw [Int.natCast_zero, Int.add_zero]; rfl⟩
  | succ n ih =>
    obtain ⟨lastError', startedAt', hrest⟩ := ih (count + 1) (some "busy") (some (wholeSecond 0))
    refine ⟨lastError', startedAt', ?_⟩
    simp only [failures, List.map_cons, Run.final_cons, Asked.request, Ask.operation, Timestamp.utc]
    rw [worn_after_failure, show count + ((n + 1 : Nat) : Int) = count + 1 + n by omega]
    exact hrest

/-- A count goes as far as the failures go. -/
theorem wornOut_run (n : Nat) :
    ∃ lastError startedAt, tablesBehind (wornOut n) = worn (failedRow n lastError startedAt) := by
  obtain ⟨lastError, startedAt, h⟩ := worn_failures n 0 none none
  refine ⟨lastError, startedAt, ?_⟩
  rw [Int.zero_add] at h
  exact h

/-- **A claim that answers an error.** After 2147483647 failures the job is due, its claim stands, and the
answer is an error. -/
theorem claim_beyond_limit :
    ∃ row job, tablesBehind (wornOut 2147483647) = worn row ∧ row.Due (wholeSecond 0) ∧
      row.read? = some job ∧ row.runAt.Dated ∧
      (claimNext (wholeSecond 0)).perform (tablesBehind (wornOut 2147483647)) =
        (.error .database, worn (row.claimed (wholeSecond 0))) := by
  obtain ⟨lastError, startedAt, h⟩ := wornOut_run 2147483647
  have hdue : (wholeSecond 0).shown.before (wholeSecond 0).shown = false := by decide
  have hdated : (wholeSecond 0).Dated := by decide
  refine ⟨_, _, h, ⟨rfl, hdue⟩, rfl, hdated, ?_⟩
  rw [h, worn_perform_claimNext]
  rfl

end DurableJobs.Store
