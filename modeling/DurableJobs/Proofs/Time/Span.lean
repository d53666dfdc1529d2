import DurableJobs.Time.Span

/-!
# Spans reckoned in parts

A span is multiplied, added up and halved in two parts, its whole seconds and what is left of a second, each
in a word of its own, with a carry between them. The caller sees none of it. What comes out is the exact
number of nanoseconds, and a result is refused just when no span is so long (`times?_eq`, `plus?_eq`).
-/

set_option autoImplicit false

namespace DurableJobs.Span

theorem min_nanos (a b : Span) : (a.min b).nanos = Min.min a.nanos b.nanos := by
  rw [Span.min, Nat.min_def]
  split <;> rfl

theorem ofNanos?_of_lt {nanos : Nat} (h : nanos < 18446744073709551616 * 1000000000) :
    ofNanos? nanos = some ⟨nanos, h⟩ := dif_pos h

theorem ofNanos?_of_le {nanos : Nat} (h : 18446744073709551616 * 1000000000 ≤ nanos) :
    ofNanos? nanos = none := dif_neg (Nat.not_lt.mpr h)

theorem clamp_nanos {nanos : Nat} (h : nanos < 18446744073709551616 * 1000000000) :
    (clamp nanos).nanos = nanos := by
  rw [clamp, ofNanos?_of_lt h]
  rfl

/-- **Put together from parts**, a span is exact, and only a sum that is no span is refused. -/
theorem ofParts?_eq (whole part : Nat) : ofParts? whole part = ofNanos? (whole * 1000000000 + part) := by
  have hwidth : greatestUnsigned 64 = 18446744073709551615 := by decide
  simp only [ofParts?, nanosPerSecond, unsigned?, hwidth]
  have hcarry : (whole + part / 1000000000) * 1000000000 + part % 1000000000 =
      whole * 1000000000 + part := by omega
  by_cases hwhole : whole ≤ 18446744073709551615
  · rw [if_pos hwhole, Option.bind_eq_bind, Option.bind_some]
    by_cases hcarried : whole + part / 1000000000 ≤ 18446744073709551615
    · rw [if_pos hcarried, Option.bind_some, hcarry]
    · rw [if_neg hcarried, ofNanos?_of_le (by omega)]
      rfl
  · rw [if_neg hwhole, ofNanos?_of_le (by omega)]
    rfl

theorem times?_eq (span : Span) (factor : UInt32) :
    span.times? factor = ofNanos? (span.nanos * factor.toNat) := by
  have hparts : span.nanos / 1000000000 * factor.toNat * 1000000000 +
      span.nanos % 1000000000 * factor.toNat = span.nanos * factor.toNat :=
    calc span.nanos / 1000000000 * factor.toNat * 1000000000 + span.nanos % 1000000000 * factor.toNat
        = (span.nanos / 1000000000 * 1000000000 + span.nanos % 1000000000) * factor.toNat := by
          rw [Nat.add_mul, Nat.mul_right_comm]
      _ = span.nanos * factor.toNat := by rw [Nat.div_add_mod']
  rw [times?, ofParts?_eq, nanosPerSecond, hparts]

theorem plus?_eq (a b : Span) : a.plus? b = ofNanos? (a.nanos + b.nanos) := by
  have hparts : (a.nanos / 1000000000 + b.nanos / 1000000000) * 1000000000 +
      (a.nanos % 1000000000 + b.nanos % 1000000000) = a.nanos + b.nanos := by omega
  rw [plus?, ofParts?_eq, nanosPerSecond, hparts]

theorem half_nanos (span : Span) : span.half.nanos = span.nanos / 2 := by
  simp only [half, nanosPerSecond]
  omega

end DurableJobs.Span
