import DurableJobs.Proofs.Retry.Backoff

/-!
# Jitter around the delay

Jobs that failed together come back apart: half of the delay is kept, and a share of it, drawn anew each
time, is added. The share is drawn below the delay in nanoseconds, as far as these fit 64 bits, so of the
longest delays less than the whole is drawn, and the sum of the two is a span however long the delay is
(`jittered?_eq`). Where nothing is clipped, the draws reach every nanosecond there is to reach.
-/

set_option autoImplicit false

namespace DurableJobs.Backoff

variable {attempt : Nat}

theorem jitterBound_eq (delay : Span) : jitterBound delay = min delay.nanos 18446744073709551615 := rfl

theorem jitterBound_pos {delay : Span} (h : 0 < delay.nanos) : 0 < jitterBound delay := by
  rw [jitterBound_eq]
  omega

/-- **Nothing overflows**: half a delay and a share of it that fits 64 bits make a span. -/
theorem jittered?_eq {delay : Span} (h : 0 < delay.nanos) (draw : Nat) :
    ∃ span, jittered? delay draw = some span ∧
      span.nanos = delay.nanos / 2 + draw % jitterBound delay := by
  have hshare : draw % jitterBound delay < jitterBound delay := Nat.mod_lt _ (jitterBound_pos h)
  have hbound := jitterBound_eq delay
  have hlongest := delay.nanos_lt
  -- half of the longest span leaves room for a share of 64 bits
  have hsum : delay.nanos / 2 + draw % jitterBound delay < 18446744073709551616 * 1000000000 := by
    omega
  refine ⟨⟨_, hsum⟩, ?_, rfl⟩
  rw [jittered?, if_neg (Nat.ne_of_gt (jitterBound_pos h)), Span.ofNanos?_of_lt (by omega),
    Option.bind_some, Span.plus?_eq, Span.half_nanos, Span.ofNanos?_of_lt hsum]

/-- A delay of nothing is not jittered. -/
theorem jittered?_zero {delay : Span} (h : delay.nanos = 0) (draw : Nat) :
    jittered? delay draw = some delay := by
  have hbound : jitterBound delay = 0 := by
    rw [jitterBound_eq, h]
    rfl
  rw [jittered?, if_pos hbound]

/-- A jittered delay is what is reckoned, and stands in for nothing. -/
theorem fullJitter?_eq (backoff : Backoff) (attempt draw : Nat) :
    backoff.fullJitter? attempt draw = some (backoff.fullJitter attempt draw) := by
  have hsome : ∃ span, backoff.fullJitter? attempt draw = some span := by
    rw [fullJitter?]
    split
    · exact ⟨_, rfl⟩
    · rcases Nat.eq_zero_or_pos (backoff.exponential attempt).nanos with hzero | hpos
      · exact ⟨_, jittered?_zero hzero draw⟩
      · obtain ⟨span, hspan, -⟩ := jittered?_eq hpos draw
        exact ⟨span, hspan⟩
  obtain ⟨span, hspan⟩ := hsome
  rw [fullJitter, hspan, Option.getD_some]

theorem fullJitter_of_zero (backoff : Backoff) (h : 0 < attempt)
    (hzero : (backoff.exponential attempt).nanos = 0) (draw : Nat) :
    backoff.fullJitter attempt draw = Span.zero := by
  have hdelay : backoff.exponential attempt = Span.zero := by
    generalize backoff.exponential attempt = delay at hzero
    obtain ⟨nanos, hnanos⟩ := delay
    cases hzero
    rfl
  rw [fullJitter, fullJitter?, if_neg (Nat.ne_of_gt h), jittered?_zero hzero, hdelay, Option.getD_some]

/-- Half a delay and a share of it that fits 64 bits make a span. -/
theorem fullJitter_nanos (backoff : Backoff) (h : 0 < attempt)
    (hdelay : 0 < (backoff.exponential attempt).nanos) (draw : Nat) :
    (backoff.fullJitter attempt draw).nanos =
      (backoff.exponential attempt).nanos / 2 +
        draw % min (backoff.exponential attempt).nanos 18446744073709551615 := by
  obtain ⟨span, hspan, hnanos⟩ := jittered?_eq hdelay draw
  rw [fullJitter, fullJitter?, if_neg (Nat.ne_of_gt h), hspan, Option.getD_some, hnanos, jitterBound_eq]

/-- Where the delay fits 64 bits, every nanosecond from its half up to its half and the whole is drawn. -/
theorem exists_draw (backoff : Backoff) (h : 0 < attempt)
    (hfits : (backoff.exponential attempt).nanos ≤ 18446744073709551615) {nanos : Nat}
    (hleast : (backoff.exponential attempt).nanos / 2 ≤ nanos)
    (hmost : nanos < (backoff.exponential attempt).nanos / 2 + (backoff.exponential attempt).nanos) :
    ∃ draw, draw < jitterBound (backoff.exponential attempt) ∧
      (backoff.fullJitter attempt draw).nanos = nanos := by
  have hbound : min (backoff.exponential attempt).nanos 18446744073709551615 =
      (backoff.exponential attempt).nanos := min_eq_left hfits
  refine ⟨nanos - (backoff.exponential attempt).nanos / 2, ?_, ?_⟩
  · rw [jitterBound_eq, hbound]
    omega
  · rw [backoff.fullJitter_nanos h (by omega), hbound, Nat.mod_eq_of_lt (by omega)]
    omega

/-- **Jitter around the delay.** From the first attempt on, a jittered delay is always reckoned to an end,
whatever is drawn: nothing overflows, and there is something to draw from whenever a draw is made. It is
nothing where the delay is nothing. Otherwise it is half the delay at least and shorter than half the delay
and the whole, and if the delay fits 64 bits of nanoseconds, each of these nanoseconds is reached. -/
theorem jitter_around_delay (backoff : Backoff) (hattempt : 1 ≤ attempt) :
    (∀ draw, backoff.fullJitter? attempt draw = some (backoff.delay .fullJitter attempt draw)) ∧
    ((backoff.exponential attempt).nanos = 0 →
      ∀ draw, backoff.delay .fullJitter attempt draw = Span.zero) ∧
    (0 < (backoff.exponential attempt).nanos →
      0 < jitterBound (backoff.exponential attempt) ∧
      ∀ draw, (backoff.exponential attempt).nanos / 2 ≤ (backoff.delay .fullJitter attempt draw).nanos ∧
        (backoff.delay .fullJitter attempt draw).nanos <
          (backoff.exponential attempt).nanos / 2 + (backoff.exponential attempt).nanos) ∧
    ((backoff.exponential attempt).nanos ≤ greatestUnsigned 64 →
      ∀ nanos, (backoff.exponential attempt).nanos / 2 ≤ nanos →
        nanos < (backoff.exponential attempt).nanos / 2 + (backoff.exponential attempt).nanos →
        ∃ draw, draw < jitterBound (backoff.exponential attempt) ∧
          (backoff.delay .fullJitter attempt draw).nanos = nanos) := by
  refine ⟨backoff.fullJitter?_eq attempt, backoff.fullJitter_of_zero hattempt, ?_, ?_⟩
  · intro hdelay
    refine ⟨jitterBound_pos hdelay, fun draw => ?_⟩
    have hnanos : (backoff.delay .fullJitter attempt draw).nanos = _ :=
      backoff.fullJitter_nanos hattempt hdelay draw
    have hshare := Nat.mod_lt draw (jitterBound_pos hdelay)
    rw [jitterBound_eq] at hshare
    rw [hnanos]
    omega
  · intro hfits nanos hleast hmost
    exact backoff.exists_draw hattempt hfits hleast hmost

/-- At the thirty-first attempt of the long delays the delay is the longest span, and a draw of it is
clipped; a delay of an odd number of nanoseconds is rounded down when it is halved. -/
theorem jitter_around_delay_extremes :
    (∀ draw, longDelays.fullJitter? 31 draw = some (longDelays.delay .fullJitter 31 draw)) ∧
    (∀ draw, Span.greatest.nanos / 2 ≤ (longDelays.delay .fullJitter 31 draw).nanos) ∧
    (∀ draw, (Backoff.delay ⟨Span.zero, Span.greatest⟩ .fullJitter 31 draw) = Span.zero) ∧
    ∃ draw, draw < 7 ∧ (Backoff.delay ⟨Span.greatest, ⟨7, by decide⟩⟩ .fullJitter 1 draw).nanos = 9 := by
  have hlongest : (longDelays.exponential 31).nanos = Span.greatest.nanos := by decide
  have hnone : (Backoff.exponential ⟨Span.zero, Span.greatest⟩ 31).nanos = 0 := by decide
  have hseven : (Backoff.exponential ⟨Span.greatest, ⟨7, by decide⟩⟩ 1).nanos = 7 := by decide
  obtain ⟨hreckoned, -, hlong, -⟩ := jitter_around_delay longDelays (by decide : 1 ≤ 31)
  obtain ⟨-, hzero, -⟩ := jitter_around_delay ⟨Span.zero, Span.greatest⟩ (by decide : 1 ≤ 31)
  obtain ⟨-, -, -, hreached⟩ := jitter_around_delay ⟨Span.greatest, ⟨7, by decide⟩⟩ (by decide : 1 ≤ 1)
  refine ⟨hreckoned, fun draw => ?_, hzero hnone, ?_⟩
  · have hleast := ((hlong (by rw [hlongest]; decide)).2 draw).1
    rwa [hlongest] at hleast
  · obtain ⟨draw, hdraw, hnanos⟩ :=
      hreached (by rw [hseven]; decide) 9 (by rw [hseven]; decide) (by rw [hseven]; decide)
    rw [jitterBound_eq, hseven] at hdraw
    exact ⟨draw, by omega, hnanos⟩

end DurableJobs.Backoff
