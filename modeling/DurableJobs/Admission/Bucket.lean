import DurableJobs.Time.Span

/-!
# Token buckets

A bucket holds at most `burst` tokens, starts full and regains one token per period. All of its state
is one reading of the clock: the time at which it will be full again. A token may be taken while that
time is less than a whole bucket ahead, and taking one moves it a period further. The time is counted
in nanoseconds on a clock that never goes back.
-/

set_option autoImplicit false

namespace DurableJobs.Admission

structure Bucket where
  /-- The nanoseconds that bring one token. -/
  period : Nat
  /-- How many tokens a full bucket holds. -/
  burst : Nat
  /-- When the bucket is full again. -/
  fullAt : Nat
  deriving DecidableEq, Repr

namespace Bucket

/-- A bucket that is full. Its size is one token at least. -/
def full (period burst : Nat) : Bucket := ⟨period, max burst 1, 0⟩

/-- A token is there at a time. -/
def ready (bucket : Bucket) (now : Nat) : Bool :=
  bucket.fullAt ≤ now + (bucket.burst - 1) * bucket.period

/-- The first time at which a token is there. -/
def readyAt (bucket : Bucket) : Nat := bucket.fullAt - (bucket.burst - 1) * bucket.period

/-- Take a token that is there. -/
def take (bucket : Bucket) (now : Nat) : Bucket :=
  { bucket with fullAt := max bucket.fullAt now + bucket.period }

/-- The period of a rate in tokens per second. A rate that is not positive, whose period no span can
hold or rounds to nothing, gives one token per second. -/
def periodOfRate (rate : Binary64) : Nat :=
  if rate.isPositive then
    match Span.ofFloatSeconds? ((Binary64.ofNat 1).div rate) with
    | some period => if period.nanos = 0 then 1000000000 else period.nanos
    | none => 1000000000
  else 1000000000

end Bucket

end DurableJobs.Admission
