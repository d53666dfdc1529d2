import DurableJobs.Numeric.Binary64
import DurableJobs.Numeric.Width

/-!
# Spans of time

A `Span` is a length of time in whole nanoseconds, never negative and never longer than
`2^64` seconds less a nanosecond. The bound is part of the type, so whatever computes a span says what
happens at the bound: `ofNanos?` refuses, `clamp` stops there.
-/

set_option autoImplicit false

namespace DurableJobs

def nanosPerSecond : Nat := 1000000000

structure Span where
  nanos : Nat
  nanos_lt : nanos < 18446744073709551616 * 1000000000
  deriving DecidableEq, Repr

namespace Span

/-- The longest span. -/
def greatest : Span := ⟨18446744073709551616 * 1000000000 - 1, by decide⟩

def zero : Span := ⟨0, by decide⟩

instance : Inhabited Span := ⟨zero⟩

def ofNanos? (nanos : Nat) : Option Span :=
  if h : nanos < 18446744073709551616 * 1000000000 then some ⟨nanos, h⟩ else none

/-- The span of so many nanoseconds, or the longest one. -/
def clamp (nanos : Nat) : Span := (ofNanos? nanos).getD greatest

def ofSeconds (seconds : Nat) : Span := clamp (seconds * 1000000000)

def ofMillis (millis : Nat) : Span := clamp (millis * 1000000)

/-- The span nearest to a number of seconds, half a nanosecond to the even neighbour. Negative
numbers, NaN and numbers beyond the longest span have none. -/
def ofFloatSeconds? (seconds : Binary64) : Option Span :=
  (seconds.scaledNat? 1000000000).bind ofNanos?

/-- A span of whole seconds and a part in nanoseconds, which may make up more seconds: they are carried
over. Neither the seconds nor the sum may leave 64 bits. -/
def ofParts? (whole part : Nat) : Option Span := do
  let whole ← unsigned? 64 whole
  let seconds ← unsigned? 64 (whole + part / nanosPerSecond)
  ofNanos? (seconds * nanosPerSecond + part % nanosPerSecond)

/-- So many times a span, if there is such a span. The whole seconds and what is left of a second are
multiplied apart. -/
def times? (span : Span) (factor : UInt32) : Option Span :=
  ofParts? (span.nanos / nanosPerSecond * factor.toNat) (span.nanos % nanosPerSecond * factor.toNat)

/-- The sum of two spans, if there is such a span. The whole seconds and what is left of them are added
apart. -/
def plus? (a b : Span) : Option Span :=
  ofParts? (a.nanos / nanosPerSecond + b.nanos / nanosPerSecond)
    (a.nanos % nanosPerSecond + b.nanos % nanosPerSecond)

/-- Half a span, down to a nanosecond. The whole seconds and what is left of a second are halved apart,
and what both halves drop is halved together. -/
def half (span : Span) : Span where
  nanos :=
    let whole := span.nanos / nanosPerSecond
    let part := span.nanos % nanosPerSecond
    whole / 2 * nanosPerSecond + (part / 2 + (whole % 2 * nanosPerSecond + part % 2) / 2)
  nanos_lt := by
    have := span.nanos_lt
    simp only [nanosPerSecond]
    omega

/-- The longer of two spans. -/
def max (a b : Span) : Span := if a.nanos ≤ b.nanos then b else a

/-- The shorter of two spans. -/
def min (a b : Span) : Span := if a.nanos ≤ b.nanos then a else b

end Span

end DurableJobs
