import DurableJobs.Time.Calendar

/-!
# Instants

An `Instant` is a point of coordinated universal time with nanoseconds. A leap second is the second
before it running on: its nanoseconds go beyond a whole second and stay below two, which is also where
it sorts. Instants are counted from 1970; arithmetic answers `none` outside the years that the calendar
covers, and a caller has to say what that means.
-/

set_option autoImplicit false

namespace DurableJobs

structure Instant where
  /-- Whole seconds since the start of 1970. -/
  seconds : Int
  nanos : Nat
  nanos_lt : nanos < 2000000000
  deriving DecidableEq, Repr

namespace Instant

instance : Inhabited Instant := ⟨⟨0, 0, by decide⟩⟩

/-- Whole days from the year 0 to the start of 1970. -/
def epochDays : Int := 719528

def leastYear : Int := -262143

def greatestYear : Int := 262142

/-- The first second of the covered years. -/
def leastSecond : Int := (Date.daysBeforeYear leastYear - epochDays) * 86400

/-- The second after the covered years. -/
def endSecond : Int := (Date.daysBeforeYear (greatestYear + 1) - epochDays) * 86400

def inRange (seconds : Int) : Bool := leastSecond ≤ seconds && seconds < endSecond

/-- Earlier in time; a leap second is after the second it extends. -/
def before (a b : Instant) : Bool :=
  a.seconds < b.seconds || (a.seconds == b.seconds && a.nanos < b.nanos)

/-- Nanoseconds since the start of 1970. -/
def totalNanos (a : Instant) : Int := a.seconds * 1000000000 + a.nanos

/-- The instant so many nanoseconds after the start of 1970. -/
def ofTotalNanos (total : Int) : Instant :=
  ⟨Int.fdiv total 1000000000, (Int.fmod total 1000000000).toNat, by
    have h₁ : 0 ≤ Int.fmod total 1000000000 := Int.fmod_nonneg_of_pos total (by decide)
    have h₂ : Int.fmod total 1000000000 < 1000000000 := Int.fmod_lt_of_pos total (by decide)
    omega⟩

/-- Move by a number of nanoseconds, forward or back, unless that leaves the covered years. -/
def addNanos? (a : Instant) (delta : Int) : Option Instant :=
  let moved := ofTotalNanos (a.totalNanos + delta)
  if inRange moved.seconds then some moved else none

/-- The nanoseconds from `b` to `a`, negative when `b` is later. -/
def since (a b : Instant) : Int := a.totalNanos - b.totalNanos

/-- The day of the calendar and the second of the day. -/
def dateAndSecond (a : Instant) : Date × Nat :=
  (Date.ofDays (Int.fdiv a.seconds 86400 + epochDays), (Int.fmod a.seconds 86400).toNat)

end Instant

/-- An instant together with the offset from universal time at which it was written. -/
structure Timestamp where
  instant : Instant
  /-- Seconds east of universal time. -/
  offset : Int
  deriving DecidableEq, Repr, Inhabited

namespace Timestamp

def utc (instant : Instant) : Timestamp := ⟨instant, 0⟩

end Timestamp

end DurableJobs
