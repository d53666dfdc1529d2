import DurableJobs.DeadLetters
import DurableJobs.Proofs.Store.Stuck
import DurableJobs.Proofs.Time.Age

/-!
# Passes by age

Two passes go over a whole table and by age alone: one takes jobs back that have been in processing for too
long, the other deletes dead letters that have been kept for long enough. Each goes back from the clock by
the age and picks what lies before that time. Where it gets to is a time of its own, and it need not be one of
the calendar (`execute_statementAgo`).

What is picked is decided by texts. As long as the times lie in years of four digits, the texts pick what the
times pick (`aged_rows_and_letters`), down to the nanosecond, though a text with fewer digits may be compared
with a longer one.
-/

set_option autoImplicit false

namespace DurableJobs.Store

variable {α : Type} {now cutoff : Instant} {age : Int}

/-! ## What a pass does -/

/-- A statement that is run for the time that lies an age before the clock, if the calendar has it. -/
def statementAgo (age : Int) (now : Instant) (table : Table) (run : Instant → Tables → α × Tables) :
    Call α :=
  match now.addNanos? (-age) with
  | none => throw .calendarOverflow
  | some cutoff => statement table fun tables => .ok (run cutoff tables)

theorem reclaimStuck_eq (age : Int) (now : Instant) :
    reclaimStuck age now = statementAgo age now .jobs fun cutoff tables =>
      tables.updateJobs (fun row => row.hasStatus .processing && storedBefore row.updatedAt cutoff)
        (·.reclaimed now) := rfl

theorem cleanup_eq (age : Int) (now : Instant) :
    DeadLetters.cleanup age now = statementAgo age now .deadLetters fun cutoff tables =>
      tables.deleteDeadLetters fun letter => storedBefore letter.archivedAt cutoff := by
  rw [DeadLetters.cleanup, statementAgo]
  cases now.addNanos? (-age) <;> rfl

/-- The age may lead out of the calendar, and the database may fail the statement; else it is run. -/
theorem execute_statementAgo (age : Int) (now : Instant) (table : Table)
    (run : Instant → Tables → α × Tables) (s : Session) :
    (statementAgo age now table run).execute s =
      if Instant.inRange (now.ago age).seconds = true then
        if (s.faults.headD false || !s.tables.has table) = true then
          (.error .database, ⟨s.tables, s.faults.tail⟩)
        else (.ok (run (now.ago age) s.tables).1, ⟨(run (now.ago age) s.tables).2, s.faults.tail⟩)
      else (.error .calendarOverflow, s) := by
  rw [statementAgo, Instant.addNanos?_neg]
  cases Instant.inRange (now.ago age).seconds with
  | false => rfl
  | true => exact execute_statement table _ s

theorem statementAgo_overflows_iff {table : Table} {run : Instant → Tables → α × Tables} {s : Session} :
    ((statementAgo age now table run).execute s).1 = .error .calendarOverflow ↔
      Instant.inRange (now.ago age).seconds = false := by
  rw [execute_statementAgo]
  cases Instant.inRange (now.ago age).seconds with
  | false => exact iff_of_true rfl rfl
  | true =>
    rw [if_pos rfl]
    split <;> exact iff_of_false nofun nofun

theorem perform_statementAgo {table : Table} {run : Instant → Tables → α × Tables} {tables : Tables}
    (hthere : tables.has table = true) (hcutoff : (now.ago age).FourDigits) :
    (statementAgo age now table run).perform tables =
      (.ok (run (now.ago age) tables).1, (run (now.ago age) tables).2) := by
  rw [Call.perform, execute_statementAgo, if_pos hcutoff.inRange, if_neg (by simp [hthere])]

/-! ## What the times pick -/

/-- In processing, and unchanged since before a time. -/
def Row.StuckSince (row : Row) (cutoff : Instant) : Prop :=
  row.status = Status.processing.name ∧ row.updatedAt.shown.before cutoff = true

instance (row : Row) (cutoff : Instant) : Decidable (row.StuckSince cutoff) :=
  inferInstanceAs (Decidable (_ ∧ _))

theorem storedBefore_eq_before {a : Instant} (ha : a.Dated) (hcutoff : cutoff.FourDigits) :
    storedBefore a cutoff = a.shown.before cutoff := by
  rw [Bool.eq_iff_iff, ha.storedBefore_iff hcutoff.dated, Instant.shown_of_whole hcutoff.whole]

theorem Row.stuckSince_iff {row : Row} (hrow : row.updatedAt.Dated) (hcutoff : cutoff.FourDigits) :
    (row.hasStatus .processing && storedBefore row.updatedAt cutoff) = decide (row.StuckSince cutoff) := by
  rw [storedBefore_eq_before hrow hcutoff, Bool.eq_iff_iff, decide_eq_true_iff, Bool.and_eq_true_iff,
    Row.hasStatus, beq_iff_eq]
  rfl

theorem Row.passed_eq {row : Row} (hrow : row.updatedAt.Dated) (hcutoff : cutoff.FourDigits) :
    row.passed cutoff now = if row.StuckSince cutoff then row.reclaimed now else row := by
  simp only [Row.passed, row.stuckSince_iff hrow hcutoff, decide_eq_true_eq]

/-- A row behind a pass is not picked again. -/
theorem Row.passed_not_stuck (row : Row) : ((row.passed cutoff now).hasStatus .processing &&
    storedBefore (row.passed cutoff now).updatedAt cutoff) = false := by
  cases hprocessing : (row.passed cutoff now).hasStatus .processing with
  | false => rfl
  | true =>
    obtain ⟨hsame, hyoung⟩ := Row.passed_processing hprocessing
    rw [hsame, hyoung]
    rfl

theorem Row.passed_passed (row : Row) : (row.passed cutoff now).passed cutoff now = row.passed cutoff now :=
  if_neg (Bool.eq_false_iff.mp row.passed_not_stuck)

theorem perform_reclaimStuck (tables : Tables) (hthere : tables.has .jobs = true)
    (hcutoff : (now.ago age).FourDigits) :
    (reclaimStuck age now).perform tables =
      (.ok (tables.jobs.countP fun row =>
          row.hasStatus .processing && storedBefore row.updatedAt (now.ago age)),
        { tables with jobs := tables.jobs.map (·.passed (now.ago age) now) }) := by
  rw [reclaimStuck_eq, perform_statementAgo hthere hcutoff, List.countP_eq_length_filter]
  rfl

theorem perform_cleanup (tables : Tables) (hthere : tables.has .deadLetters = true)
    (hcutoff : (now.ago age).FourDigits) :
    (DeadLetters.cleanup age now).perform tables =
      (.ok (tables.deadLetters.countP fun letter => storedBefore letter.archivedAt (now.ago age)),
        { tables with
          deadLetters := tables.deadLetters.filter fun letter =>
            !storedBefore letter.archivedAt (now.ago age) }) := by
  rw [cleanup_eq, perform_statementAgo hthere hcutoff, List.countP_eq_length_filter]
  rfl

/-- A second pass at the same reading of the clock finds nothing. -/
theorem perform_reclaimStuck_again (tables : Tables) (hthere : tables.has .jobs = true)
    (hcutoff : (now.ago age).FourDigits) :
    let passed := { tables with jobs := tables.jobs.map (·.passed (now.ago age) now) }
    (reclaimStuck age now).perform passed = (.ok 0, passed) := by
  intro passed
  have hnone : passed.jobs.countP (fun row =>
      row.hasStatus .processing && storedBefore row.updatedAt (now.ago age)) = 0 :=
    List.countP_eq_zero.mpr <| List.forall_mem_map.mpr fun row _ =>
      Bool.eq_false_iff.mp row.passed_not_stuck
  have hsame : passed.jobs.map (·.passed (now.ago age) now) = passed.jobs :=
    List.map_map.trans <| List.map_congr_left fun row _ => row.passed_passed
  rw [perform_reclaimStuck passed hthere hcutoff, hnone, hsame]

/-- **Passes by age.** The times of the rows and letters, and the time that lies an age before the clock, are
in the years 0000 to 9999. Then a pass over stuck jobs gives back the rows that have been in processing
without a change since before that time, tried once more and changed now, leaves all else as it is, and
answers how many they are; a second pass at the same reading of the clock finds none. A cleanup deletes the
dead letters that were archived before that time, leaves all else as it is, and answers how many they
were. -/
theorem aged_rows_and_letters (tables : Tables) (now : Instant) (age : Int)
    (hjobs : tables.has .jobs = true) (hletters : tables.has .deadLetters = true)
    (hcutoff : (now.ago age).Dated) (hrows : ∀ row ∈ tables.jobs, row.updatedAt.Dated)
    (harchive : ∀ letter ∈ tables.deadLetters, letter.archivedAt.Dated) :
    let cutoff := now.ago age
    let passed : Tables :=
      { tables with
        jobs := tables.jobs.map fun row =>
          if row.StuckSince cutoff then
            { row with
              status := Status.pending.name
              attemptCount := row.attemptCount + 1
              updatedAt := now }
          else row }
    cutoff.totalNanos = now.totalNanos - age ∧
    (reclaimStuck age now).perform tables =
      (.ok (tables.jobs.countP fun row => row.StuckSince cutoff), passed) ∧
    (reclaimStuck age now).perform passed = (.ok 0, passed) ∧
    (DeadLetters.cleanup age now).perform tables =
      (.ok (tables.deadLetters.countP fun letter => letter.archivedAt.shown.before cutoff),
        { tables with
          deadLetters := tables.deadLetters.filter fun letter =>
            !letter.archivedAt.shown.before cutoff }) := by
  intro cutoff passed
  -- what the texts pick is what the times pick, row by row and letter by letter
  have hfour : cutoff.FourDigits := ⟨hcutoff.low, hcutoff.high, now.ago_whole age⟩
  have hpicks : ∀ row ∈ tables.jobs, (row.hasStatus .processing && storedBefore row.updatedAt cutoff) =
      decide (row.StuckSince cutoff) := fun row hrow => row.stuckSince_iff (hrows row hrow) hfour
  have hpassed : { tables with jobs := tables.jobs.map (·.passed cutoff now) } = passed :=
    congrArg (fun jobs => { tables with jobs }) <| List.map_congr_left fun row hrow =>
      row.passed_eq (hrows row hrow) hfour
  have hletter : ∀ letter ∈ tables.deadLetters, storedBefore letter.archivedAt cutoff =
      letter.archivedAt.shown.before cutoff :=
    fun letter hletter => storedBefore_eq_before (harchive letter hletter) hfour
  refine ⟨now.ago_totalNanos age, ?_, ?_, ?_⟩
  · rw [perform_reclaimStuck tables hjobs hfour, hpassed, List.countP_congr fun row hrow => by
      rw [hpicks row hrow]]
  · rw [← hpassed]
    exact perform_reclaimStuck_again tables hjobs hfour
  · rw [perform_cleanup tables hletters hfour,
      List.countP_congr fun letter hmem => by rw [hletter letter hmem],
      List.filter_congr fun letter hmem => by rw [hletter letter hmem]]

/-- A fraction of the second 600 after the start of 1970. -/
def secondSixHundred (nanos : Nat) (h : nanos < 1000000000) : Instant := ⟨600, nanos, by omega⟩

/-- Rows and letters around a quarter after the second 600: their times are written with no digit of the
second's fraction, with three, with six and with nine. -/
def agedTables : Tables :=
  let row (id : Int) (status : Status) (nanos : Nat) (h : nanos < 1000000000) : Row :=
    { Row.fresh ⟨"a", [], none, none, none, none⟩ 3 (wholeSecond 0) id with
      status := status.name, updatedAt := secondSixHundred nanos h }
  let letter (id : Int) (nanos : Nat) (h : nanos < 1000000000) : DeadLetter :=
    ⟨id, id, none, "a", [], 3, some "busy", wholeSecond 0, secondSixHundred nanos h⟩
  { Tables.empty with
    jobs :=
      [row 1 .processing 0 (by decide), row 2 .processing 249999999 (by decide),
       row 3 .processing 250000000 (by decide), row 4 .processing 250001000 (by decide),
       row 5 .pending 0 (by decide)]
    deadLetters :=
      [letter 1 0 (by decide), letter 2 249999999 (by decide), letter 3 250000000 (by decide),
       letter 4 250001000 (by decide)] }

/-- The clock is half a second past the second 1000, and the age is 400 seconds and a quarter. -/
theorem aged_rows_and_letters_fractions :
    let now : Instant := ⟨1000, 500000000, by decide⟩
    (∃ after, (reclaimStuck 400250000000 now).perform agedTables = (.ok 2, after) ∧
      after.jobs.map (·.status) = ["pending", "pending", "processing", "processing", "pending"]) ∧
    ∃ after, (DeadLetters.cleanup 400250000000 now).perform agedTables = (.ok 2, after) ∧
      after.deadLetters.map (·.id) = [3, 4] := by
  intro now
  obtain ⟨-, hpass, -, hcleanup⟩ := aged_rows_and_letters agedTables now 400250000000 (by decide) (by decide)
    (by decide) (by decide) (by decide)
  have hstuck : (agedTables.jobs.countP fun row => row.StuckSince (now.ago 400250000000)) = 2 := by decide
  have hold : (agedTables.deadLetters.countP fun letter =>
      letter.archivedAt.shown.before (now.ago 400250000000)) = 2 := by decide
  rw [hstuck] at hpass
  rw [hold] at hcleanup
  exact ⟨⟨_, hpass, by decide⟩, ⟨_, hcleanup, by decide⟩⟩

end DurableJobs.Store
