import DurableJobs.Numeric.Width
import DurableJobs.Time.Span

/-!
# Backoff

How long a job waits before it is tried again. The plain delay doubles with each attempt and stops at a
cap; jitter keeps half of it and adds a share drawn at random, so that jobs that failed together do not
come back together. The draw is an argument: a law about jitter is a law about every draw.

Attempt 0 is the base delay itself, cap or not, and from attempt 32 on the factor has left its 32 bits
and the delay is the cap.
-/

set_option autoImplicit false

namespace DurableJobs

/-- The delay before the first retry and the longest delay of all. -/
structure Backoff where
  base : Span
  cap : Span
  deriving DecidableEq, Repr

namespace Backoff

def standard : Backoff := ⟨Span.ofMillis 100, Span.ofSeconds 30⟩

instance : Inhabited Backoff := ⟨standard⟩

/-- One, shifted up by so many bits of a word of 32; a word cannot be shifted further than it is wide. -/
def factor? (attempt : Nat) : Option UInt32 :=
  if attempt < 32 then some ((1 : UInt32) <<< UInt32.ofNat attempt) else none

/-- The doubling delay. A factor beyond its word and a product that no span can hold count as beyond the
cap. -/
def exponential (backoff : Backoff) (attempt : Nat) : Span :=
  if attempt = 0 then backoff.base
  else
    match (factor? attempt).bind backoff.base.times? with
    | some delay => delay.min backoff.cap
    | none => backoff.cap

/-- How many nanoseconds the random share of a delay is drawn below: those of the delay, as far as they
fit 64 bits. -/
def jitterBound (delay : Span) : Nat := Nat.min delay.nanos (greatestUnsigned 64)

/-- Half the delay and the drawn share, if the sum is a span. -/
def jittered? (delay : Span) (draw : Nat) : Option Span :=
  if jitterBound delay = 0 then some delay
  else (Span.ofNanos? (draw % jitterBound delay)).bind delay.half.plus?

/-- The doubling delay with a draw applied; attempt 0 is not jittered. -/
def fullJitter? (backoff : Backoff) (attempt draw : Nat) : Option Span :=
  if attempt = 0 then some backoff.base else jittered? (backoff.exponential attempt) draw

/-- The jittered delay. There always is one, so that nothing stands in for it. -/
def fullJitter (backoff : Backoff) (attempt draw : Nat) : Span :=
  (backoff.fullJitter? attempt draw).getD Span.greatest

/-- How the delay grows. -/
inductive Strategy where
  | exponential
  | fullJitter
  deriving DecidableEq, Repr

namespace Strategy

instance : Inhabited Strategy := ⟨.fullJitter⟩

def name : Strategy → String
  | .exponential => "exponential"
  | .fullJitter => "full_jitter"

def all : List Strategy := [.exponential, .fullJitter]

def ofName? (name : String) : Option Strategy := all.find? (·.name == name)

end Strategy

def delay (backoff : Backoff) (strategy : Strategy) (attempt draw : Nat) : Span :=
  match strategy with
  | .exponential => backoff.exponential attempt
  | .fullJitter => backoff.fullJitter attempt draw

end Backoff

end DurableJobs
