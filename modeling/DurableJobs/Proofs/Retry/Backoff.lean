import DurableJobs.Proofs.Time.Span
import DurableJobs.Retry.Backoff
import Mathlib.Algebra.Order.Ring.Nat

/-!
# Delays that double

A doubled delay is reckoned in words. The factor is shifted in one of 32 bits, the whole seconds are
multiplied in one of 64, and what is left of a second is multiplied apart from them and carried over. So there
are three ways to overflow, and the attempt at which the first of them comes depends on the base. The caller
sees none of it. A product overflows just when no span is so long (`Span.times?_eq`), and then it is beyond
the cap, which is a span. The delay is the product or the cap, as if there were no bounds
(`exponential_nanos`).
-/

set_option autoImplicit false

namespace DurableJobs

namespace Backoff

variable {attempt : Nat}

/-- No bit is shifted out of a word as long as the shift is less than its width. -/
theorem factor?_of_lt (h : attempt < 32) : ∃ factor, factor? attempt = some factor ∧
    factor.toNat = 2 ^ attempt := by
  refine ⟨_, if_pos h, ?_⟩
  rw [UInt32.toNat_shiftLeft, UInt32.toNat_ofNat', Nat.mod_eq_of_lt (by omega : attempt < 2 ^ 32),
    Nat.mod_eq_of_lt h, Nat.shiftLeft_eq, UInt32.toNat_one, Nat.one_mul]
  exact Nat.mod_eq_of_lt (Nat.pow_lt_pow_right (by decide) h)

theorem exponential_of_le (backoff : Backoff) (h : 32 ≤ attempt) :
    backoff.exponential attempt = backoff.cap := by
  rw [exponential, if_neg (by omega), factor?, if_neg (by omega)]
  rfl

/-- **The delay is the product or the cap**, whatever overflows on the way. -/
theorem exponential_nanos (backoff : Backoff) (h : 0 < attempt) (hlt : attempt < 32) :
    (backoff.exponential attempt).nanos = min (backoff.base.nanos * 2 ^ attempt) backoff.cap.nanos := by
  obtain ⟨factor, hfactor, hpower⟩ := factor?_of_lt hlt
  rw [exponential, if_neg (Nat.ne_of_gt h), hfactor, Option.bind_some, Span.times?_eq, hpower]
  rcases Nat.lt_or_ge (backoff.base.nanos * 2 ^ attempt) (18446744073709551616 * 1000000000)
    with hspan | hbeyond
  · rw [Span.ofNanos?_of_lt hspan]
    exact Span.min_nanos _ _
  · -- a product that is no span is beyond the cap, which is one
    have hcap := backoff.cap.nanos_lt
    rw [Span.ofNanos?_of_le hbeyond, min_eq_right (by omega)]

theorem exponential_le_cap (backoff : Backoff) (h : 0 < attempt) :
    (backoff.exponential attempt).nanos ≤ backoff.cap.nanos := by
  rcases Nat.lt_or_ge attempt 32 with hlt | hge
  · rw [backoff.exponential_nanos h hlt]
    exact min_le_right _ _
  · rw [backoff.exponential_of_le hge]

/-- More attempts, a longer base and a longer cap do not make the delay shorter. -/
theorem exponential_mono {backoff greater : Backoff} {attempt later : Nat} (h : 0 < attempt)
    (hlater : attempt ≤ later) (hbase : backoff.base.nanos ≤ greater.base.nanos)
    (hcap : backoff.cap.nanos ≤ greater.cap.nanos) :
    (backoff.exponential attempt).nanos ≤ (greater.exponential later).nanos := by
  rcases Nat.lt_or_ge later 32 with hlt | hge
  · rw [backoff.exponential_nanos h (by omega), greater.exponential_nanos (by omega) hlt]
    exact min_le_min (Nat.mul_le_mul hbase (Nat.pow_le_pow_right (by decide) hlater)) hcap
  · rw [greater.exponential_of_le hge]
    exact Nat.le_trans (backoff.exponential_le_cap h) hcap

/-- **The doubling delay.** It is the base at first, then the exact product as long as that is not beyond
the cap, and the cap from the attempt on at which the factor leaves its word. But for the first one, a delay
is never beyond the cap, and it grows with the attempt, the base and the cap. -/
theorem delay_doubles_to_cap (backoff : Backoff) :
    backoff.exponential 0 = backoff.base ∧
    (∀ attempt, 1 ≤ attempt → attempt ≤ 31 → (backoff.exponential attempt).nanos =
      min (backoff.base.nanos * 2 ^ attempt) backoff.cap.nanos) ∧
    (∀ attempt, 32 ≤ attempt → backoff.exponential attempt = backoff.cap) ∧
    (∀ attempt, 1 ≤ attempt → (backoff.exponential attempt).nanos ≤ backoff.cap.nanos) ∧
    ∀ (greater : Backoff) (attempt later : Nat), 1 ≤ attempt → attempt ≤ later →
      backoff.base.nanos ≤ greater.base.nanos → backoff.cap.nanos ≤ greater.cap.nanos →
      (backoff.exponential attempt).nanos ≤ (greater.exponential later).nanos := by
  refine ⟨rfl, fun attempt hone hlast => ?_, fun attempt hbeyond => ?_, fun attempt hone => ?_,
    fun greater attempt later hone hlater hbase hcap => ?_⟩
  · exact backoff.exponential_nanos hone (by omega)
  · exact backoff.exponential_of_le hbeyond
  · exact backoff.exponential_le_cap hone
  · exact exponential_mono hone hlater hbase hcap

/-- A base a nanosecond short of `2^33 + 1` seconds, and no cap but the longest span. -/
def longDelays : Backoff := ⟨⟨8589934592999999999, by decide⟩, Span.greatest⟩

/-- At the thirtieth attempt the nanoseconds carry into the seconds, at the next one the seconds overflow,
and at the one after that the factor does. -/
theorem delay_doubles_to_cap_overflowing :
    (longDelays.exponential 30).nanos = 8589934592999999999 * 2 ^ 30 ∧
      (longDelays.exponential 31).nanos = Span.greatest.nanos ∧
      longDelays.exponential 32 = Span.greatest ∧
      (longDelays.exponential 31).nanos ≤ Span.greatest.nanos ∧
      (longDelays.exponential 30).nanos ≤ (longDelays.exponential 32).nanos := by
  obtain ⟨-, hproduct, hlast, hcap, hgrows⟩ := delay_doubles_to_cap longDelays
  refine ⟨?_, ?_, hlast 32 (by decide), hcap 31 (by decide), ?_⟩
  · rw [hproduct 30 (by decide) (by decide)]
    decide
  · rw [hproduct 31 (by decide) (by decide)]
    decide
  · exact hgrows longDelays 30 32 (by decide) (by decide) (Nat.le_refl _) (Nat.le_refl _)

end Backoff

end DurableJobs
