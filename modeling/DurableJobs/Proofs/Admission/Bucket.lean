import DurableJobs.Admission.Bucket
import Mathlib.Algebra.Order.Floor.Div

/-!
# How many tokens there are

A bucket keeps one reading of the clock, and its tokens are what that reading says: a full bucket lacks
nothing, and it lacks one token for each period, or part of one, until the time at which it is full. So a
token may be taken when there is one, taking it leaves one less, and every period brings one.
-/

set_option autoImplicit false

namespace DurableJobs.Admission.Bucket

variable {bucket : Bucket} {now : Nat}

/-- How many tokens there are at a time. -/
def tokens (bucket : Bucket) (now : Nat) : Nat :=
  bucket.burst - (bucket.fullAt - now) ⌈/⌉ bucket.period

theorem tokens_full (period burst now : Nat) : (full period burst).tokens now = max burst 1 := by
  simp [tokens, full]

theorem ready_iff (hperiod : 0 < bucket.period) (hburst : 0 < bucket.burst) :
    bucket.ready now = true ↔ 0 < bucket.tokens now := by
  have hlacks : (bucket.fullAt - now) ⌈/⌉ bucket.period ≤ bucket.burst - 1 ↔
      bucket.fullAt - now ≤ bucket.period * (bucket.burst - 1) := ceilDiv_le_iff_le_mul hperiod
  rw [ready, decide_eq_true_eq, tokens, Nat.mul_comm]
  omega

theorem ceilDiv_add_self {period : Nat} (hperiod : 0 < period) (x : Nat) :
    (x + period) ⌈/⌉ period = x ⌈/⌉ period + 1 := by
  rw [Nat.ceilDiv_eq_add_pred_div, Nat.ceilDiv_eq_add_pred_div, ← Nat.add_div_right _ hperiod]
  congr 1
  omega

/-- **Taking a token** leaves one less. -/
theorem tokens_take (hperiod : 0 < bucket.period) (hburst : 0 < bucket.burst)
    (hready : bucket.ready now = true) : (bucket.take now).tokens now + 1 = bucket.tokens now := by
  have hthere := (ready_iff hperiod hburst).mp hready
  have hlacks : max bucket.fullAt now + bucket.period - now = bucket.fullAt - now + bucket.period := by
    omega
  simp only [tokens, take] at hthere ⊢
  rw [hlacks, ceilDiv_add_self hperiod]
  omega

/-- Every period brings a token, until the bucket is full. -/
theorem tokens_later (hperiod : 0 < bucket.period)
    (hlacks : bucket.fullAt ≤ now + bucket.period * bucket.burst) :
    bucket.tokens (now + bucket.period) = min bucket.burst (bucket.tokens now + 1) := by
  have hmost : (bucket.fullAt - now) ⌈/⌉ bucket.period ≤ bucket.burst :=
    (ceilDiv_le_iff_le_mul hperiod).mpr (by omega)
  simp only [tokens]
  by_cases hlate : bucket.fullAt ≤ now + bucket.period
  · have hone : (bucket.fullAt - now) ⌈/⌉ bucket.period ≤ 1 :=
      (ceilDiv_le_iff_le_mul hperiod).mpr (by omega)
    have hnone : bucket.fullAt - (now + bucket.period) = 0 := by omega
    rw [hnone, zero_ceilDiv]
    omega
  · have hadd := ceilDiv_add_self hperiod (bucket.fullAt - (now + bucket.period))
    rw [show bucket.fullAt - (now + bucket.period) + bucket.period = bucket.fullAt - now by omega] at hadd
    omega

theorem fullAt_le_take (bucket : Bucket) (now : Nat) : bucket.fullAt ≤ (bucket.take now).fullAt := by
  simp only [take]
  omega

/-- **One token more** out of a stretch of time puts the bucket off by one period more, and it is not there
if a full bucket and what the stretch brings are gone. -/
theorem one_more {start length spent : Nat} (hperiod : 0 < bucket.period) (hburst : 0 < bucket.burst)
    (hready : bucket.ready now = true) (hfrom : start ≤ now) (hto : now ≤ start + length)
    (hspent : spent = 0 ∨ start + spent * bucket.period ≤ bucket.fullAt) :
    start + (spent + 1) * bucket.period ≤ (bucket.take now).fullAt ∧
      spent + 1 ≤ bucket.burst + length / bucket.period := by
  rw [Nat.succ_mul]
  simp only [take]
  rcases hspent with rfl | hdue
  · exact ⟨by omega, Nat.le_add_right_of_le hburst⟩
  · have hbehind : bucket.fullAt ≤ now + (bucket.burst - 1) * bucket.period := of_decide_eq_true hready
    have hmost : spent ≤ (length + (bucket.burst - 1) * bucket.period) / bucket.period :=
      (Nat.le_div_iff_mul_le hperiod).mpr (by omega)
    rw [Nat.add_mul_div_right _ _ hperiod] at hmost
    omega

/-- No rate brings tokens without end. -/
theorem periodOfRate_pos (rate : Binary64) : 0 < periodOfRate rate := by
  unfold periodOfRate
  split
  · split
    · split
      · decide
      · omega
    · decide
  · decide

end DurableJobs.Admission.Bucket
