import DurableJobs.Proofs.Store.Aged

/-!
# What the reaper leaves alone

A pass of the reaper goes by an age. It is the timeout, down to the nanosecond, as long as that is no more
than an age can be; five minutes stand in for a timeout beyond (`age_eq`). Going back from the clock by the
age may lead before the year 0 or out of the calendar, and the clock itself may stand beyond the year 9999.
Neither makes a pass take a young job: a time that is written with four digits has an earlier text only than
times that are later, so what a pass takes is older than the age (`taken_by_age`).

A time that is written with a sign is not kept to in that way, as its text sorts before all others or against
its own like.
-/

set_option autoImplicit false

namespace DurableJobs.Reaper

open DurableJobs.Store (Row Session Tables)

/-- Five minutes stand in for a timeout that is more than an age can be. -/
theorem age_eq (timeout : Span) :
    age timeout =
      ((if timeout.nanos ≤ 9223372036854775807 * 1000000 then timeout.nanos
        else 5 * 60 * 1000000000 : Nat) : Int) := by
  have hgreatest : Processor.greatestDelta = 9223372036854775807 * 1000000 := by decide
  rw [age, Processor.deltaOf?, hgreatest]
  split <;> rfl

theorem rescue_answer (timeout : Span) (now : Instant) (metrics : Metrics) (s : Session) :
    (rescue timeout now metrics s).1 = ((Store.reclaimStuck (age timeout) now).execute s).1 := by
  rw [rescue]
  rcases (Store.reclaimStuck (age timeout) now).execute s with ⟨_ | _, _⟩ <;> rfl

theorem rescue_session (timeout : Span) (now : Instant) (metrics : Metrics) (s : Session) :
    (rescue timeout now metrics s).2.2 = ((Store.reclaimStuck (age timeout) now).execute s).2 := by
  rw [rescue]
  rcases (Store.reclaimStuck (age timeout) now).execute s with ⟨_ | _, _⟩ <;> rfl

/-- A pass that is not carried out changes no table, and one that is passes every row of the jobs. -/
theorem rescue_jobs (timeout : Span) (now : Instant) (metrics : Metrics) (s : Session) :
    (∃ error, (rescue timeout now metrics s).1 = .error error ∧
      (rescue timeout now metrics s).2.2.tables = s.tables) ∨
    ∃ count, (rescue timeout now metrics s).1 = .ok count ∧
      (rescue timeout now metrics s).2.2.tables =
        { s.tables with jobs := s.tables.jobs.map (·.passed (now.ago (age timeout)) now) } := by
  rw [rescue_answer, rescue_session, Store.reclaimStuck_eq, Store.execute_statementAgo]
  split
  · split
    · exact Or.inl ⟨_, rfl, rfl⟩
    · exact Or.inr ⟨_, rfl, rfl⟩
  · exact Or.inl ⟨_, rfl, rfl⟩

/-- **What a pass takes by age.** Of the rows in processing, whose times are written with four digits, a pass
leaves every one as it is that has not been unchanged for longer than the age it goes by. The others it gives
back, if it is carried out at all and the clock stands in a year of four digits. The age is the timeout, and
five minutes if the timeout is more milliseconds than 63 bits hold. -/
theorem taken_by_age (timeout : Span) (now : Instant) (metrics : Metrics) (s : Session) (place : Nat)
    (row : Row) (hrow : s.tables.jobs[place]? = some row) (hprocessing : row.hasStatus .processing = true)
    (hdated : row.updatedAt.Dated) :
    let age : Nat :=
      if timeout.nanos ≤ 9223372036854775807 * 1000000 then timeout.nanos else 5 * 60 * 1000000000
    let cutoff := now.ago age
    let after := (rescue timeout now metrics s).2.2.tables
    (row.updatedAt.shown.before cutoff = false → after.jobs[place]? = some row) ∧
    (row.updatedAt.shown.before cutoff = true → now.FourDigits →
      ∀ count, (rescue timeout now metrics s).1 = .ok count →
        after.jobs[place]? = some (row.reclaimed now)) := by
  intro age cutoff after
  have hage : Reaper.age timeout = age := age_eq timeout
  rcases rescue_jobs timeout now metrics s with ⟨error, hanswer, hsame⟩ | ⟨count, hanswer, htables⟩
  · -- a pass that is not carried out keeps the row, and answers no count
    refine ⟨fun _ => ?_, fun _ _ count hcount => ?_⟩
    · rw [show after = s.tables from hsame, hrow]
    · cases hanswer.symm.trans hcount
  · have hplace : after.jobs[place]? =
        some (if Store.storedBefore row.updatedAt cutoff then row.reclaimed now else row) := by
      rw [show after = _ from htables, hage, List.getElem?_map, hrow, Option.map_some,
        Row.passed_of_processing hprocessing]
    refine ⟨fun hyoung => ?_, fun hold hnow _ _ => ?_⟩
    · have hkept : Store.storedBefore row.updatedAt cutoff = false :=
        Bool.eq_false_iff.mpr fun htaken =>
          Bool.eq_false_iff.mp hyoung (hdated.before_of_storedBefore (now.ago_whole age) htaken)
      rw [hplace, hkept]
      rfl
    · rw [hplace, Store.storedBefore_ago hdated hnow (Int.natCast_nonneg age), hold]
      rfl

/-- A store with one job, which has been in processing since a time. -/
def processingSince (updatedAt : Instant) : Tables :=
  { Tables.empty with
    jobs :=
      [{ Row.fresh ⟨"a", [], none, none, none, none⟩ Store.standardMaxAttempts updatedAt 1 with
         status := Status.processing.name, attemptCount := 1 }]
    lastJobId := 1 }

/-- A pass at half a second past the second 1000 goes back to a quarter past the second 600, and takes the
job of a nanosecond before. With a timeout of 3000 years it goes back beyond the year 0, and leaves a job of
the first second of that year. With the longest timeout it goes back five minutes. -/
theorem taken_by_age_threeTimeouts :
    let now : Instant := ⟨1000, 500000000, by decide⟩
    let yearNull : Instant := { (default : Instant) with seconds := Instant.yearStart 0 }
    let pass (timeout : Span) (updatedAt : Instant) : Tables :=
      (rescue timeout now Metrics.zero ⟨processingSince updatedAt, []⟩).2.2.tables
    ((pass ⟨400250000000, by decide⟩ ⟨600, 249999999, by decide⟩).jobs[0]?.map (·.status) =
      some "pending") ∧
    (pass (Span.ofSeconds 94672800000) yearNull).jobs[0]? = (processingSince yearNull).jobs[0]? ∧
    ((pass Span.greatest ⟨700, 499999999, by decide⟩).jobs[0]?.map (·.status) = some "pending") ∧
    (pass Span.greatest ⟨700, 500000000, by decide⟩).jobs[0]? =
      (processingSince ⟨700, 500000000, by decide⟩).jobs[0]? := by
  intro now yearNull pass
  have hnow : now.FourDigits := ⟨by decide, by decide, by decide⟩
  refine ⟨?_, ?_, ?_, ?_⟩
  · rw [(taken_by_age ⟨400250000000, by decide⟩ now Metrics.zero
      ⟨processingSince ⟨600, 249999999, by decide⟩, []⟩ 0 _ rfl rfl (by decide)).2 (by decide) hnow 1
      (by decide)]
    rfl
  · exact (taken_by_age (Span.ofSeconds 94672800000) now Metrics.zero ⟨processingSince yearNull, []⟩ 0 _
      rfl rfl (by decide)).1 (by decide)
  · rw [(taken_by_age Span.greatest now Metrics.zero
      ⟨processingSince ⟨700, 499999999, by decide⟩, []⟩ 0 _ rfl rfl (by decide)).2 (by decide) hnow 1
      (by decide)]
    rfl
  · exact (taken_by_age Span.greatest now Metrics.zero
      ⟨processingSince ⟨700, 500000000, by decide⟩, []⟩ 0 _ rfl rfl (by decide)).1 (by decide)

/-- **Young jobs that a pass takes.** With a timeout of `2^63` milliseconds a job is taken that has been in
processing for 301 seconds; with one of five minutes, a job of the year 11533, as a sign sorts before a digit;
and with one that leads back to the year -34, a job of the last hour of the year -1, as `-0001` sorts before
`-0034`. -/
theorem young_jobs_taken :
    let second (seconds : Int) : Instant := { (default : Instant) with seconds }
    let taken (timeout : Span) (updatedAt : Instant) : Prop :=
      updatedAt.shown.before ((second 1780000000).ago timeout.nanos) = false ∧
        (rescue timeout (second 1780000000) Metrics.zero
          ⟨processingSince updatedAt, []⟩).2.2.tables.jobs.map (·.status) = ["pending"]
    taken (Span.ofMillis 9223372036854775808) (second (1780000000 - 301)) ∧
      taken (Span.ofSeconds 300) (second (1780000000 + 300000000000)) ∧
      taken (Span.ofMillis 65000000000000) (second (Instant.yearStart 0 - 3600)) := by
  refine ⟨⟨?_, ?_⟩, ⟨?_, ?_⟩, ?_, ?_⟩ <;> decide

end DurableJobs.Reaper
