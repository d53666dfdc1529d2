import DurableJobs.Proofs.Retry.Marks
import DurableJobs.Proofs.System.Counters
import DurableJobs.Proofs.Time.Delay

/-!
# Held back and counted

A failure is judged twice when its job is put off. Its text alone says whether a provider limits its callers,
and then the job waits for the provider. Whether the failure counts as a retry is up to its cause first, and
to the text only if the cause leaves it open. The two judgements look for different marks, and they part in
two places (`isOverlooked`). A cause that is permanent is never counted, though its text may well have a mark
of a rate limit in it, by the name of a type or a piece of a payload. And the mark of throttling is the one
mark of a rate limit in which there is none of a failure that will pass. All other failures that a job is held
back for are counted.
-/

set_option autoImplicit false

namespace DurableJobs

open Retry (hasMark rateLimitMarks retryableMarks rateLimitWait?)

variable {σ : Type}

/-! ## Marks within marks -/

namespace Retry

/-- A message that has one of some marks has one of others, if there is one of these within each of those. -/
theorem hasMark_of_covered {marks others : List String} {message : String}
    (hcovered : ∀ mark ∈ marks, ∃ other ∈ others, other.toList <:+: mark.toList)
    (h : hasMark marks message = true) : hasMark others message = true := by
  obtain ⟨mark, hmark, hoccurs⟩ := hasMark_iff.mp h
  obtain ⟨other, hother, hwithin⟩ := hcovered mark hmark
  exact hasMark_iff.mpr ⟨other, hother, hwithin.trans hoccurs⟩

/-- The one mark of a rate limit without a mark of a passing failure in it. -/
def throttling : String := "throttl"

/-- A message of a rate limit is one of a passing failure, or speaks of throttling. -/
theorem isRateLimit_cases {message : String} (h : isRateLimit message = true) :
    hasMark [throttling] message = true ∨ isRetryable message = true := by
  have hcovered : ∀ mark ∈ rateLimitMarks,
      ∃ other ∈ throttling :: retryableMarks, other.toList <:+: mark.toList := by decide +kernel
  obtain ⟨mark, hmark, hoccurs⟩ := hasMark_iff.mp (hasMark_of_covered hcovered h)
  rcases List.mem_cons.mp hmark with rfl | hpassing
  · exact Or.inl (hasMark_iff.mpr ⟨_, List.mem_singleton_self _, hoccurs⟩)
  · exact Or.inr (hasMark_iff.mpr ⟨mark, hpassing, hoccurs⟩)

theorem isRateLimit_of_throttling {message : String} (h : hasMark [throttling] message = true) :
    isRateLimit message = true := hasMark_of_covered (by decide) h

theorem rateLimitWait?_isSome (message : String) :
    (rateLimitWait? message).isSome = isRateLimit message := by
  rw [rateLimitWait?]
  cases isRateLimit message <;> rfl

end Retry

/-! ## The two judgements -/

namespace Failure

/-- A job that fails so is held back for a provider when it is put off. -/
def holdsBack (failure : Failure) : Bool := (rateLimitWait? failure.message).isSome

/-- It speaks of a rate limit and is not counted as a retry: its cause is permanent, or it speaks of throttling
and of nothing else that passes. -/
def isOverlooked : Failure → Bool
  | .transient _ => false
  | .other chain => hasMark [Retry.throttling] (chainText chain) && !Retry.isRetryable (chainText chain)
  | .unknownType text => Retry.isRateLimit (Failure.unknownType text).message
  | .invalidPayload text => Retry.isRateLimit (Failure.invalidPayload text).message
  | .rejected text => Retry.isRateLimit (Failure.rejected text).message

/-- **Where the judgements part.** -/
theorem isOverlooked_iff (failure : Failure) :
    failure.isOverlooked = true ↔ failure.holdsBack = true ∧ failure.isRetryable = false := by
  rw [holdsBack, Retry.rateLimitWait?_isSome]
  cases failure with
  | transient text => exact ⟨nofun, fun h => nomatch h.2⟩
  | unknownType text | invalidPayload text | rejected text => exact ⟨fun h => ⟨h, rfl⟩, fun h => h.1⟩
  | other chain =>
    show _ ↔ Retry.isRateLimit (chainText chain) = true ∧ Retry.isRetryable (chainText chain) = false
    rw [isOverlooked, Bool.and_eq_true, Bool.not_eq_true']
    constructor
    · rintro ⟨hthrottling, hunmarked⟩
      exact ⟨Retry.isRateLimit_of_throttling hthrottling, hunmarked⟩
    · rintro ⟨hlimited, hunmarked⟩
      refine ⟨(Retry.isRateLimit_cases hlimited).resolve_right ?_, hunmarked⟩
      rw [hunmarked]
      exact Bool.false_ne_true

theorem isRetryable_of_holdsBack {failure : Failure} (h : failure.holdsBack = true) :
    failure.isRetryable = !failure.isOverlooked := by
  have hiff := failure.isOverlooked_iff
  rw [h] at hiff
  cases hagain : failure.isRetryable <;> cases hover : failure.isOverlooked <;> simp_all

end Failure

namespace Result

/-- The job is put off, and held back for a provider. -/
def heldBack (r : Result) : Bool := r.outcome.failure?.any (·.holdsBack) && !r.final

/-- The failure is one of those that are overlooked. -/
def overlooked (r : Result) : Bool := r.outcome.failure?.any (·.isOverlooked)

theorem retries_of_heldBack {r : Result} (h : r.heldBack = true) (hseen : r.overlooked = false) :
    r.retries = true := by
  rw [heldBack, Bool.and_eq_true] at h
  obtain ⟨hholds, hagain⟩ := h
  rw [retries, hagain, Bool.and_true]
  cases hfailure : r.outcome.failure? with
  | none =>
    rw [hfailure] at hholds
    cases hholds
  | some failure =>
    rw [overlooked, hfailure, Option.any_some] at hseen
    rw [hfailure, Option.any_some] at hholds
    rw [Option.any_some, Failure.isRetryable_of_holdsBack hholds, hseen]
    rfl

end Result

/-! ## What is counted -/

/-- The verdict on a failure after which the job is tried again: it is put off, and no less than a provider
asks for, and the retry is counted if the failure is retryable. -/
theorem Processor.settle_of_failure {config : ProcessorConfig} {job : Job} {outcome : HandlerOutcome}
    {failure : Failure} {now : Instant} (hfails : outcome.failure? = some failure)
    (hagain : config.deadLetters.shouldMove job now = false) (draw : Nat) (metrics : Metrics) :
    (settle config job outcome now draw metrics).1 =
        .rescheduling failure.message (retryDelay config job failure.message draw) ∧
      ∀ jobType, (settle config job outcome now draw metrics).2.reading (.retries jobType) =
        metrics.reading (.retries jobType) +
          if job.jobType = jobType ∧ failure.isRetryable = true then 1 else 0 := by
  refine ⟨?_, fun jobType => ?_⟩
  · simp only [settle, hfails, hagain, Bool.false_eq_true, if_false]
  · rw [reading_settle, Result.counts_of_failure hfails, hagain]
    simp [@eq_comm _ jobType]

/-- **Held back and counted.** A failure that a job is held back for is not retryable just when it is one of
the overlooked. A job that fails and is put off waits for the provider its failure speaks of, and the retry is
counted unless the failure is overlooked. So in every run in which archiving and taking back are left to the
processors, there are as many retries counted for a type, at least, as results for which a job of it was held
back and which were not overlooked. -/
theorem held_back_failures_counted :
    (∀ failure : Failure,
      (∃ wait, rateLimitWait? failure.message = some wait) ∧ failure.isRetryable = false ↔
        failure.isOverlooked = true) ∧
    (∀ (config : ProcessorConfig) (job : Job) (outcome : HandlerOutcome) (failure : Failure)
      (now : Instant) (draw : Nat) (metrics : Metrics) (wait : Span),
      outcome.failure? = some failure → config.deadLetters.shouldMove job now = false →
      rateLimitWait? failure.message = some wait →
      ∃ delay, (Processor.settle config job outcome now draw metrics).1 =
          .rescheduling failure.message delay ∧
        wait.nanos ≤ delay.nanos ∧
        ∀ jobType, (Processor.settle config job outcome now draw metrics).2.reading (.retries jobType) =
          metrics.reading (.retries jobType) +
            if job.jobType = jobType ∧ failure.isOverlooked = false then 1 else 0) ∧
    ∀ (turns : List (Turn σ)), (∀ turn ∈ turns, turn.leavesCounting = true) → ∀ jobType,
      ((results (World.empty.occurrences turns)).countP fun r =>
        r.job.jobType == jobType && (r.heldBack && !r.overlooked)) ≤
        (World.empty.actAll turns).total (.retries jobType) := by
  refine ⟨?_, ?_, ?_⟩
  · intro failure
    rw [failure.isOverlooked_iff, Failure.holdsBack, Option.isSome_iff_exists]
  · intro config job outcome failure now draw metrics wait hfails hagain hwait
    obtain ⟨hphase, hcounted⟩ := Processor.settle_of_failure hfails hagain draw metrics
    refine ⟨_, hphase, ?_, fun jobType => ?_⟩
    · rw [Processor.retryDelay_nanos, Processor.leastWait, hwait]
      exact Nat.le_max_right _ _
    · have hholds : failure.holdsBack = true := by rw [Failure.holdsBack, hwait, Option.isSome_some]
      simp only [hcounted, Failure.isRetryable_of_holdsBack hholds, Bool.not_eq_true']
  · intro turns hturns jobType
    -- what is counted are the results that are retryable, so it is enough that these are
    rw [(counted_run turns hturns).retries]
    refine List.countP_mono_left fun r _ hr => ?_
    rw [Bool.and_eq_true, Bool.and_eq_true, Bool.not_eq_true'] at hr
    obtain ⟨htype, hheld, hseen⟩ := hr
    rw [htype, Bool.true_and]
    exact Result.retries_of_heldBack hheld hseen

/-- A job of a provider that sends a code, and one of a provider that says the same in a word. -/
def twoProviders : List (Turn Unit) :=
  let worker : Action Unit :=
    .launch ProcessorConfig.standard
      (Registry.empty.register "a" (.immediate fun context _ s =>
        (.failed (.other [if context.jobId = 1 then "HTTP 429" else "request was throttled"]), s)))
      .standard ()
  [.quiet 0 worker, .quiet 0 (.enqueue "a"), .quiet 0 (.enqueue "a"),
   .quiet 0 (.act 0 .claim), .quiet 0 (.act 0 .claim),
   .quiet 0 (.act 0 (.step 0 0)), .quiet 0 (.act 0 (.step 0 0)), .quiet 0 (.act 0 (.step 0 0)),
   .quiet 0 (.act 0 (.step 1 0)), .quiet 0 (.act 0 (.step 1 0)), .quiet 0 (.act 0 (.step 1 0))]

/-- The job of the first, at its first attempt. -/
def limitedJob : Job :=
  { id := 1, tenantId := none, jobType := "a", payload := [], status := .processing,
    idempotencyKey := none, attemptCount := 1, maxAttempts := 5, lastError := none,
    runAt := Store.wholeSecond 0, startedAt := some (Store.wholeSecond 0), completedAt := none,
    createdAt := Store.wholeSecond 0, updatedAt := Store.wholeSecond 0 }

theorem held_back_failures_counted_twoProviders :
    (results (World.empty.occurrences twoProviders)).countP (·.heldBack) = 2 ∧
    ((results (World.empty.occurrences twoProviders)).countP fun r =>
      r.job.jobType == "a" && (r.heldBack && !r.overlooked)) ≤
        (World.empty.actAll twoProviders).total (.retries "a") ∧
    (World.empty.actAll twoProviders).total (.retries "a") = 1 ∧
    (Failure.other ["request was throttled"]).isOverlooked = true ∧
    ∃ delay, (Processor.settle ProcessorConfig.standard limitedJob (.failed (.other ["HTTP 429"]))
        (Store.wholeSecond 0) 0 Metrics.zero).1 = .rescheduling "HTTP 429" delay ∧
      60000000000 ≤ delay.nanos := by
  obtain ⟨hparts, hsettle, hrun⟩ := held_back_failures_counted (σ := Unit)
  have hthrottled : rateLimitWait? (Failure.other ["request was throttled"]).message =
      some (Span.ofSeconds 60) := by decide +kernel
  have hlimited : rateLimitWait? (Failure.other ["HTTP 429"]).message = some (Span.ofSeconds 60) := by
    decide +kernel
  have hagain : ProcessorConfig.standard.deadLetters.shouldMove limitedJob (Store.wholeSecond 0) = false := by
    decide
  refine ⟨by decide +kernel, hrun twoProviders (by decide) "a", by decide +kernel, ?_, ?_⟩
  · exact (hparts _).mp ⟨⟨_, hthrottled⟩, by decide +kernel⟩
  · obtain ⟨delay, hphase, hwaits, -⟩ :=
      hsettle _ _ (.failed (.other ["HTTP 429"])) _ _ 0 Metrics.zero _ rfl hagain hlimited
    exact ⟨delay, hphase, hwaits⟩

/-- Not all that holds a job back is counted, nor is it only what may pass: a request that was throttled is not
retryable, and a type that nobody knows may be named for a code. -/
theorem throttled_call_not_counted :
    (¬ ∀ failure : Failure, (∃ wait, rateLimitWait? failure.message = some wait) →
      failure.isRetryable = true) ∧
    ¬ ∀ failure : Failure, failure.isPermanent = true → rateLimitWait? failure.message = none := by
  constructor
  · intro h
    have hagain := h (.other ["request was throttled"]) ⟨Span.ofSeconds 60, by decide +kernel⟩
    exact absurd hagain (by decide +kernel)
  · intro h
    have hnone := h (.unknownType "429") rfl
    exact absurd hnone (by decide +kernel)

end DurableJobs
