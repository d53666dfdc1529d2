import DurableJobs.Processor.Task
import DurableJobs.Proofs.Time.StoredOrder

/-!
# Delays

A delay is added to a clock, the sum is stored as a text, and the text is compared with the texts of
later clocks. All of that keeps to the delay as long as the sum lies in a year with four digits. A delay
that leads beyond is none at all (`storedAtMost_retryAt_iff`): a year of five digits sorts before every
clock, and a time outside the calendar is replaced by the present.
-/

set_option autoImplicit false

namespace DurableJobs

namespace Instant

/-- What a clock reads: a time since 1970, and no leap second. -/
structure IsReading (a : Instant) : Prop where
  low : 0 ≤ a.seconds
  whole : a.nanos < 1000000000

/-- The first nanosecond of the year 10000. -/
def tenThousand : Int := yearStart 10000 * 1000000000

variable {a : Instant}

theorem IsReading.fourDigits (h : a.IsReading) (hlt : a.totalNanos < tenThousand) : a.FourDigits where
  low := Int.le_trans (by decide) h.low
  high := by
    rw [totalNanos, tenThousand] at hlt
    have := h.whole
    omega
  whole := h.whole

theorem FourDigits.before_tenThousand (h : a.FourDigits) : a.totalNanos < tenThousand := by
  have hhigh := h.high
  have hwhole := h.whole
  rw [totalNanos, tenThousand]
  omega

/-- The calendar goes on after the year 9999. -/
theorem FourDigits.inRange (h : a.FourDigits) : Instant.inRange a.seconds = true := by
  have hleast : leastSecond ≤ yearStart 0 := by decide
  have hlast : yearStart 10000 ≤ endSecond := by decide
  have hlow := h.low
  have hhigh := h.high
  rw [Instant.inRange, Bool.and_eq_true_iff, decide_eq_true_iff, decide_eq_true_iff]
  omega

theorem totalNanos_ofTotalNanos (total : Int) : (ofTotalNanos total).totalNanos = total := by
  have hdiv : Int.fdiv total 1000000000 = total / 1000000000 :=
    Int.fdiv_eq_ediv_of_nonneg _ (by decide)
  have hmod : Int.fmod total 1000000000 = total % 1000000000 :=
    Int.fmod_eq_emod_of_nonneg _ (by decide)
  simp only [totalNanos, ofTotalNanos, hdiv, hmod]
  omega

theorem ofTotalNanos_whole (total : Int) : (ofTotalNanos total).nanos < 1000000000 := by
  have hmod : Int.fmod total 1000000000 = total % 1000000000 :=
    Int.fmod_eq_emod_of_nonneg _ (by decide)
  simp only [ofTotalNanos, hmod]
  omega

end Instant

theorem Store.storedBefore_asymm {a b : Instant} (h : Store.storedBefore a b = true) :
    ¬ Store.storedBefore b a = true := by
  rw [Store.storedBefore, decide_eq_true_iff] at h ⊢
  exact List.lt_asymm h

open Instant (tenThousand)

namespace Processor

variable {t t' : Instant} {delay : Span}

theorem deltaOf?_of_lt (h : delay.nanos < tenThousand) : deltaOf? delay = some (delay.nanos : Int) := by
  have hyear : tenThousand = 253402300800 * 1000000000 := by decide
  have hgreatest : greatestDelta = 9223372036854775807000000 := by decide
  rw [deltaOf?, if_pos (by omega)]

/-- A delay that ends before the year 10000 is added to the clock. -/
theorem retryAt_of_lt (ht : t.IsReading) (h : t.totalNanos + delay.nanos < tenThousand) :
    (retryAt delay t).totalNanos = t.totalNanos + delay.nanos ∧ (retryAt delay t).FourDigits := by
  have hstart : 0 ≤ t.totalNanos := by
    have hlow := ht.low
    rw [Instant.totalNanos]
    omega
  have htotal := Instant.totalNanos_ofTotalNanos (t.totalNanos + delay.nanos)
  have hwhole := Instant.ofTotalNanos_whole (t.totalNanos + delay.nanos)
  generalize hend : Instant.ofTotalNanos (t.totalNanos + delay.nanos) = later at htotal hwhole
  have hreading : later.IsReading := by
    refine ⟨?_, hwhole⟩
    rw [Instant.totalNanos] at htotal
    omega
  have hfour : later.FourDigits := hreading.fourDigits (htotal ▸ h)
  have hretry : retryAt delay t = later := by
    rw [retryAt, deltaOf?_of_lt (by omega), Option.bind_some, Instant.addNanos?]
    simp only [hend, hfour.inRange, if_true, Option.getD_some]
  rw [hretry]
  exact ⟨htotal, hfour⟩

/-- A delay that ends later is dropped, or leads beyond the year 9999. -/
theorem retryAt_of_le (h : tenThousand ≤ t.totalNanos + delay.nanos) :
    retryAt delay t = t ∨
      Instant.yearStart 10000 ≤ (retryAt delay t).seconds ∧ (retryAt delay t).nanos < 1000000000 := by
  have htotal := Instant.totalNanos_ofTotalNanos (t.totalNanos + delay.nanos)
  have hwhole := Instant.ofTotalNanos_whole (t.totalNanos + delay.nanos)
  generalize hend : Instant.ofTotalNanos (t.totalNanos + delay.nanos) = later at htotal hwhole
  rw [retryAt, deltaOf?]
  split
  · rw [Option.bind_some, Instant.addNanos?]
    simp only [hend]
    split
    · refine Or.inr ⟨?_, hwhole⟩
      rw [← htotal, Instant.totalNanos, tenThousand] at h
      rw [Option.getD_some]
      omega
    · exact Or.inl rfl
  · exact Or.inl rfl

/-- A delay that ends before the year 10000 is kept to by the texts. -/
theorem storedAtMost_retryAt_of_lt (ht : t.IsReading) (ht' : t'.FourDigits)
    (h : t.totalNanos + delay.nanos < tenThousand) :
    Store.storedAtMost (retryAt delay t) t' = true ↔ t.totalNanos + delay.nanos ≤ t'.totalNanos := by
  obtain ⟨htotal, hfour⟩ := retryAt_of_lt ht h
  rw [Store.storedAtMost, Bool.not_eq_true', ← Bool.not_eq_true, ht'.storedBefore_iff hfour, htotal]
  omega

/-- **When a job that was put off is due**: after its delay, or at once if that leads beyond the year
9999. -/
theorem storedAtMost_retryAt_iff (ht : t.IsReading) (ht' : t'.FourDigits)
    (h : t.totalNanos ≤ t'.totalNanos) :
    Store.storedAtMost (retryAt delay t) t' = true ↔
      t.totalNanos + delay.nanos ≤ t'.totalNanos ∨ tenThousand ≤ t.totalNanos + delay.nanos := by
  rcases Int.lt_or_le (t.totalNanos + delay.nanos) tenThousand with hlt | hle
  · rw [storedAtMost_retryAt_of_lt ht ht' hlt]
    omega
  · refine iff_of_true ?_ (Or.inr hle)
    rw [Store.storedAtMost, Bool.not_eq_true', ← Bool.not_eq_true]
    rcases retryAt_of_le hle with hsame | ⟨hbeyond, -⟩
    · have hbefore := ht'.before_tenThousand
      rw [hsame, ht'.storedBefore_iff (ht.fourDigits (by omega))]
      omega
    · exact Store.storedBefore_asymm (ht'.storedBefore_of_beyond hbeyond)

/-- No clock finds it due earlier. -/
theorem delay_of_storedAtMost (ht : t.IsReading) (ht' : t'.IsReading)
    (h : Store.storedAtMost (retryAt delay t) t' = true) :
    t.totalNanos + delay.nanos ≤ t'.totalNanos ∨ tenThousand ≤ t.totalNanos + delay.nanos := by
  by_cases hearly : t'.totalNanos < t.totalNanos + delay.nanos
  · refine Or.inr (Int.not_lt.mp fun hlt => ?_)
    have hfour' : t'.FourDigits := ht'.fourDigits (Int.lt_trans hearly hlt)
    exact Int.not_le.mpr hearly ((storedAtMost_retryAt_of_lt ht hfour' hlt).mp h)
  · exact Or.inl (Int.not_lt.mp hearly)

/-- The least delay after a failure, in nanoseconds: the backoff of the attempt, and the wait that a
provider asks for. -/
def leastWait (config : ProcessorConfig) (job : Job) (message : String) (draw : Nat) : Nat :=
  max (config.backoff.delay config.strategy job.attemptCount.toNat draw).nanos
    ((Retry.rateLimitWait? message).elim 0 (·.nanos))

theorem retryDelay_nanos (config : ProcessorConfig) (job : Job) (message : String) (draw : Nat) :
    (retryDelay config job message draw).nanos = leastWait config job message draw := by
  have hattempt : (if 0 ≤ job.attemptCount then job.attemptCount.toNat else 0) =
      job.attemptCount.toNat := by
    split <;> omega
  rw [retryDelay, leastWait, hattempt]
  cases Retry.rateLimitWait? message with
  | none => exact (Nat.max_zero _).symm
  | some wait =>
    simp only [Span.max, Option.elim_some]
    split <;> omega

end Processor

end DurableJobs
