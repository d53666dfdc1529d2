/-!
# The calendar

Days are counted from 1 January of the year 0 of the proleptic Gregorian calendar, and `Date.ofDays`
and `Date.toDays?` go between the count and a date. A year is found by a guess from the mean length of
a year that is then moved until the day lies inside it, so that what the year satisfies is read off
the test and not off the guess.
-/

set_option autoImplicit false

namespace DurableJobs

structure Date where
  year : Int
  month : Nat
  day : Nat
  deriving DecidableEq, Repr

namespace Date

def isLeapYear (year : Int) : Bool :=
  year % 4 == 0 && (year % 100 != 0 || year % 400 == 0)

/-- The days before the first day of a year. -/
def daysBeforeYear (year : Int) : Int :=
  365 * year + Int.fdiv (year + 3) 4 - Int.fdiv (year + 99) 100 + Int.fdiv (year + 399) 400

/-- The days of the months, in order. -/
def monthLengths (leap : Bool) : List Nat :=
  [31, if leap then 29 else 28, 31, 30, 31, 30, 31, 31, 30, 31, 30, 31]

/-- Walk a day of the year (from zero) through the months that are left. -/
def walkMonths : List Nat → Nat → Nat → Nat × Nat
  | [], month, day => (month, day + 1)
  | length :: rest, month, day =>
      if day < length then (month, day + 1) else walkMonths rest (month + 1) (day - length)

/-- The year a day lies in. -/
def yearOfDays (days : Int) : Int :=
  let guess := Int.fdiv (days * 400) 146097
  if days < daysBeforeYear guess then guess - 1
  else if daysBeforeYear (guess + 1) ≤ days then guess + 1
  else guess

def ofDays (days : Int) : Date :=
  let year := yearOfDays days
  let (month, day) :=
    walkMonths (monthLengths (isLeapYear year)) 1 (days - daysBeforeYear year).toNat
  ⟨year, month, day⟩

/-- The day count of a date that exists. -/
def toDays? (date : Date) : Option Int :=
  let lengths := monthLengths (isLeapYear date.year)
  match lengths[date.month - 1]? with
  | none => none
  | some length =>
      if date.month = 0 ∨ date.day = 0 ∨ length < date.day then none
      else
        some (daysBeforeYear date.year + ((lengths.take (date.month - 1)).foldl (· + ·) 0 : Nat) +
          ((date.day - 1 : Nat) : Int))

end Date

end DurableJobs
