import DurableJobs.Proofs.Retry.Jitter
import DurableJobs.Proofs.System.Aftermath
import DurableJobs.Proofs.Worker.Reaper
import DurableJobs.Settings.Load

/-!
# What settings can make overflow

A setting is a number of 64 bits, and what is made of it has limits of its own: a span holds `2^64` seconds,
an age `2^63` milliseconds, and the calendar some 262 thousand years to either side. Every number is a span
of so many milliseconds or seconds, so the waits and the intervals are what was set. The other two limits
are met by the ages alone. Hours and days may be more than an age can be, and then there is no policy for
dead letters; an age that is one may lead a pass out of the calendar, and then the pass answers so.

A job that fails comes upon none of this. How old it is can always be told, a delay is never more than a
span, a time that it would be put off to beyond the calendar is given up, and no call that its task makes
goes back from the clock.
-/

set_option autoImplicit false

namespace DurableJobs

open Store (Session)

/-! ## Limits of the numbers -/

namespace Span

theorem ofMillis_nanos {millis : Nat} (h : millis < 18446744073709551616) :
    (ofMillis millis).nanos = millis * 1000000 := clamp_nanos (by omega)

theorem ofSeconds_nanos {seconds : Nat} (h : seconds < 18446744073709551616) :
    (ofSeconds seconds).nanos = seconds * 1000000000 := clamp_nanos (by omega)

end Span

/-- Between two times of the calendar lies no more than an age can be. -/
theorem Instant.since_le_greatestDelta {a b : Instant} (ha : inRange a.seconds = true)
    (hb : inRange b.seconds = true) : (a.since b).natAbs ≤ Processor.greatestDelta := by
  have hleast : leastSecond = -8334601228800 := by decide
  have hend : endSecond = 8210266876800 := by decide
  have hgreatest : Processor.greatestDelta = 9223372036854775807000000 := by decide
  rw [inRange, Bool.and_eq_true_iff, decide_eq_true_iff, decide_eq_true_iff] at ha hb
  have hananos := a.nanos_lt
  have hbnanos := b.nanos_lt
  rw [since, totalNanos, totalNanos]
  omega

theorem Processor.retryAt_inRange {now : Instant} (hnow : Instant.inRange now.seconds = true)
    (delay : Span) : Instant.inRange (retryAt delay now).seconds = true := by
  rw [retryAt]
  cases hdelta : deltaOf? delay with
  | none => exact hnow
  | some delta =>
    rw [Option.bind_some, Instant.addNanos?]
    split
    · next hmoved => exact hmoved
    · exact hnow

namespace Settings

variable {settings : Settings} {now : Instant}

/-- Waits, intervals and delays are as long as they were set. -/
structure SpansKept (settings : Settings) : Prop where
  poll : settings.pollInterval.nanos = max settings.worker.pollIntervalMillis.toNat 1 * 1000000
  base : settings.backoffDelays.base.nanos = settings.backoff.baseDelayMillis.toNat * 1000000
  cap : settings.backoffDelays.cap.nanos = settings.backoff.maxDelayMillis.toNat * 1000000
  zombie : settings.zombieTimeout.nanos = settings.worker.zombieTimeoutSeconds.toNat * 1000000000
  reaper : settings.reaperInterval?.map (·.nanos) =
    if 0 < settings.worker.reaperIntervalSeconds.toNat then
      some (settings.worker.reaperIntervalSeconds.toNat * 1000000000)
    else none
  cleanup : settings.cleanupInterval.nanos =
    max settings.deadLetters.cleanupIntervalSeconds.toNat 1 * 1000000000
  shutdown : settings.shutdownTimeout.nanos =
    settings.worker.shutdownTimeoutSeconds.toNat * 1000000000

theorem spansKept (settings : Settings) : settings.SpansKept where
  poll := Span.ofMillis_nanos (Nat.max_lt.mpr ⟨UInt64.toNat_lt _, by decide⟩)
  base := Span.ofMillis_nanos (UInt64.toNat_lt _)
  cap := Span.ofMillis_nanos (UInt64.toNat_lt _)
  zombie := Span.ofSeconds_nanos (UInt64.toNat_lt _)
  reaper := by
    unfold reaperInterval?
    dsimp only
    split
    · exact congrArg some (Span.ofSeconds_nanos (UInt64.toNat_lt _))
    · rfl
  cleanup := Span.ofSeconds_nanos (Nat.max_lt.mpr ⟨UInt64.toNat_lt _, by decide⟩)
  shutdown := Span.ofSeconds_nanos (UInt64.toNat_lt _)

theorem age?_eq (count unitSeconds : Int) :
    age? count unitSeconds =
      if (count * unitSeconds).natAbs ≤ 9223372036854775 then some (count * unitSeconds * 1000000000)
      else none := by
  rw [age?, greatestAgeSeconds]
  split <;> split <;> first | rfl | omega

/-- There is a policy unless one of its ages is more than an age can be. -/
theorem deadLetterPolicy?_eq (settings : Settings) :
    settings.deadLetterPolicy? =
      if (settings.deadLetters.staleAfterHours.toInt * 3600).natAbs ≤ 9223372036854775 ∧
          (settings.deadLetters.retentionDays.toInt * 86400).natAbs ≤ 9223372036854775 then
        some ⟨max settings.deadLetters.maxAttempts.toInt 1,
          settings.deadLetters.staleAfterHours.toInt * 3600 * 1000000000,
          settings.deadLetters.retentionDays.toInt * 86400 * 1000000000⟩
      else none := by
  rw [deadLetterPolicy?, age?_eq, age?_eq]
  split
  · next hstale =>
    split
    · next hretention => exact (if_pos ⟨hstale, hretention⟩).symm
    · next hretention => exact (if_neg fun h => hretention h.2).symm
  · next hstale => exact (if_neg fun h => hstale h.1).symm

/-- The age in seconds that the reaper goes by: the one that was set, or five minutes. -/
def zombieAgeSeconds (settings : Settings) : Nat :=
  if settings.worker.zombieTimeoutSeconds.toNat ≤ 9223372036854775 then
    settings.worker.zombieTimeoutSeconds.toNat
  else 5 * 60

theorem reaper_age (settings : Settings) :
    Reaper.age settings.zombieTimeout = (settings.zombieAgeSeconds : Int) * 1000000000 := by
  rw [Reaper.age_eq, zombieTimeout, Span.ofSeconds_nanos settings.worker.zombieTimeoutSeconds.toNat_lt,
    zombieAgeSeconds]
  split <;> split <;> omega

theorem rescue_overflows_iff (hwhole : now.nanos < 1000000000) (metrics : Metrics) (s : Session) :
    (Reaper.rescue settings.zombieTimeout now metrics s).1 = .error .calendarOverflow ↔
      Instant.inRange (now.seconds - settings.zombieAgeSeconds) = false := by
  rw [Reaper.rescue_answer, Store.reclaimStuck_eq, Store.statementAgo_overflows_iff, reaper_age,
    Instant.ago_seconds hwhole]

theorem cleanup_overflows_iff {policy : DeadLetterPolicy}
    (hpolicy : settings.deadLetterPolicy? = some policy) (hwhole : now.nanos < 1000000000)
    (s : Session) :
    ((DeadLetters.cleanup policy.retention now).execute s).1 = .error .calendarOverflow ↔
      Instant.inRange (now.seconds - settings.deadLetters.retentionDays.toInt * 86400) = false := by
  rw [deadLetterPolicy?_eq, Option.ite_none_right_eq_some] at hpolicy
  obtain ⟨-, hpolicy⟩ := hpolicy
  rw [← Option.some.inj hpolicy, Store.cleanup_eq, Store.statementAgo_overflows_iff,
    Instant.ago_seconds hwhole]

/-- What is reckoned behind a failure stays in bounds: the age of the job is one, half a delay and a share
of it make a span, and the time that a job is put off to is one of the calendar. -/
structure FailsInBounds (settings : Settings) (now : Instant) : Prop where
  age : ∀ createdAt : Instant, Instant.inRange createdAt.seconds = true →
    (now.since createdAt).natAbs ≤ 9223372036854775807 * 1000000
  jitter : ∀ attempt draw, 0 < attempt → 0 < (settings.backoffDelays.exponential attempt).nanos →
    (settings.backoffDelays.fullJitter attempt draw).nanos =
      (settings.backoffDelays.exponential attempt).nanos / 2 +
        draw % min (settings.backoffDelays.exponential attempt).nanos 18446744073709551615
  retry : ∀ delay, Instant.inRange (Processor.retryAt delay now).seconds = true

theorem failsInBounds (settings : Settings) (hnow : Instant.inRange now.seconds = true) :
    settings.FailsInBounds now where
  age _ hcreated := by
    have hgreatest : Processor.greatestDelta = 9223372036854775807 * 1000000 := by decide
    rw [← hgreatest]
    exact Instant.since_le_greatestDelta hnow hcreated
  jitter _ draw hone hdelay := Backoff.fullJitter_nanos _ hone hdelay draw
  retry := Processor.retryAt_inRange hnow

/-- **What settings can make overflow.** All spans are as long as they were set. There is a policy for dead
letters unless its hours or its days are more than an age can be. A pass of the reaper overflows if the
zombie timeout leads out of the calendar, where five minutes stand in for one that is more than an age can
be, and a cleanup if the retention does. A job that fails overflows nothing: its numbers stay in bounds, its
task ends at the fourth step from the failure whatever these steps meet, and none of the store's answers to
a task is an overflow. -/
theorem overflow_by_ages {σ : Type} (settings : Settings) (now : Instant)
    (hnow : Instant.inRange now.seconds = true) (hwhole : now.nanos < 1000000000) :
    settings.SpansKept ∧
    settings.deadLetterPolicy? =
      (if (settings.deadLetters.staleAfterHours.toInt * 3600).natAbs ≤ 9223372036854775 ∧
          (settings.deadLetters.retentionDays.toInt * 86400).natAbs ≤ 9223372036854775 then
        some ⟨max settings.deadLetters.maxAttempts.toInt 1,
          settings.deadLetters.staleAfterHours.toInt * 3600 * 1000000000,
          settings.deadLetters.retentionDays.toInt * 86400 * 1000000000⟩
      else none) ∧
    (∀ metrics s, (Reaper.rescue settings.zombieTimeout now metrics s).1 = .error .calendarOverflow ↔
      Instant.inRange (now.seconds - settings.zombieAgeSeconds) = false) ∧
    (∀ policy, settings.deadLetterPolicy? = some policy → ∀ s,
      (((DeadLetters.cleanup policy.retention now).execute s).1 = .error .calendarOverflow ↔
        Instant.inRange (now.seconds - settings.deadLetters.retentionDays.toInt * 86400) = false)) ∧
    settings.FailsInBounds now ∧
    (∀ (p : Processor σ) n encounters, .error .calendarOverflow ∉ (p.follow n encounters).1) ∧
    ∀ (p : Processor σ) n task outcome failure encounters, p.task? n = some task →
      p.outcome? task.job task.phase = some outcome → outcome.failure? = some failure →
      4 ≤ encounters.length → (p.follow n encounters).2.task? n = none :=
  ⟨settings.spansKept, settings.deadLetterPolicy?_eq, rescue_overflows_iff hwhole,
    fun _ hpolicy => cleanup_overflows_iff hpolicy hwhole, settings.failsInBounds hnow,
    fun p => p.follow_inCalendar, fun _ _ _ _ _ _ hfound hears hfails =>
      Processor.follow_ends_of_failure hfound hears hfails⟩

/-- Settings with the longest ages for dead letters that there is a policy for, and the longest timeout. -/
def longestAges : Settings where
  database := ⟨"sqlite://jobrs.db?mode=rwc", none, none, none, none⟩
  worker :=
    { pollIntervalMillis := 1000, claimBatchSize := 10, zombieTimeoutSeconds := 18446744073709551615,
      reaperIntervalSeconds := 60, shutdownTimeoutSeconds := 30 }
  backoff := ⟨100, 30000, .fullJitter⟩
  deadLetters :=
    { maxAttempts := -1, staleAfterHours := 2562047788015, retentionDays := -106751991167,
      cleanupIntervalSeconds := 3600 }
  rateLimits := .standard
  metrics := ⟨true, "0.0.0.0:9000"⟩
  app := ⟨"http://localhost:8080"⟩
  completion := ⟨none, "gpt-3.5-turbo", "https://api.openai.com/v1", 60⟩
  mail := ⟨none, "https://api.resend.com", "noreply@localhost", none, 30⟩

/-- A job that has used up its attempts, and whose type no handler knows. -/
def strandedJob : Job :=
  { id := 1, tenantId := none, jobType := "a", payload := [], status := .processing,
    idempotencyKey := none, attemptCount := 5, maxAttempts := 5, lastError := none,
    runAt := Store.wholeSecond 0, startedAt := some (Store.wholeSecond 1), completedAt := none,
    createdAt := Store.wholeSecond 0, updatedAt := Store.wholeSecond 1 }

/-- A processor without handlers whose one task has been admitted. -/
def strandedProcessor : Processor Bool :=
  { Processor.create .standard .empty (.ofProfiles [] ⟨1, Binary64.ofNat 1, 5⟩) false with
    tasks := [⟨0, strandedJob, .admitted⟩] }

/-- The timeout is more than an age can be, so the reaper goes by five minutes. The retention is one, and
leads the cleanup out of the calendar, forwards. The job is stranded in a store without tables, and its
task ends all the same. -/
theorem overflow_by_ages_longest :
    let now := Store.wholeSecond 1000
    let failedStatement : Encounter := ⟨⟨now, 0⟩, 0, ⟨Store.Tables.bare, [true]⟩⟩
    longestAges.deadLetterPolicy? = some ⟨1, 9223372036854000000000000, -9223372036828800000000000⟩ ∧
    (Reaper.rescue longestAges.zombieTimeout now Metrics.zero ⟨Store.Tables.empty, []⟩).1 ≠
      .error .calendarOverflow ∧
    ((DeadLetters.cleanup (-9223372036828800000000000) now).execute ⟨Store.Tables.empty, []⟩).1 =
      .error .calendarOverflow ∧
    (strandedProcessor.follow 0 (List.replicate 4 failedStatement)).2.task? 0 = none := by
  intro now failedStatement
  obtain ⟨-, hpolicy, hrescue, hcleanup, -, -, hends⟩ :=
    @overflow_by_ages Bool longestAges now (by decide) (by decide)
  have hlongest : longestAges.deadLetterPolicy? =
      some ⟨1, 9223372036854000000000000, -9223372036828800000000000⟩ := by
    rw [hpolicy]
    decide
  refine ⟨hlongest, fun hoverflow => ?_, (hcleanup _ hlongest _).mpr (by decide),
    hends strandedProcessor 0 ⟨0, strandedJob, .admitted⟩ _ (.unknownType "a") _ rfl rfl rfl (by decide)⟩
  have hback := (hrescue Metrics.zero ⟨Store.Tables.empty, []⟩).mp hoverflow
  revert hback
  decide

/-- The settings of a file with a text. -/
def ofText? (text : String) : Option Settings := (ofFile [("jobs.toml", text)] "jobs").toOption

/-- **Accepted settings that overflow**: with the most hours of 64 bits there is no policy; a zombie
timeout of `10^13` seconds leads the reaper out of the calendar, and a retention of `10^8` days the
cleanup. -/
theorem accepted_settings_overflow :
    (ofText? "[dead_letter]\nstale_after_hours = 9223372036854775807\n").map (·.deadLetterPolicy?) =
      some none ∧
    ((ofText? "[worker]\nzombie_timeout_secs = 10000000000000\n").map fun settings =>
      (Reaper.rescue settings.zombieTimeout (Store.wholeSecond 0) Metrics.zero ⟨Store.Tables.empty, []⟩).1) =
        some (.error .calendarOverflow) ∧
    ((ofText? "[dead_letter]\nretention_days = 100000000\n").bind fun settings =>
      settings.deadLetterPolicy?.map fun policy =>
        ((DeadLetters.cleanup policy.retention (Store.wholeSecond 0)).perform Store.Tables.empty).1) =
        some (.error .calendarOverflow) := by
  refine ⟨?_, ?_, ?_⟩ <;> decide +kernel

end Settings

end DurableJobs
