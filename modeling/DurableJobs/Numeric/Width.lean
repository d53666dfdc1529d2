/-!
# Whole numbers of a width

The bounds of the whole numbers that so many bits hold, with and without a sign. Where a number is kept
in a word of the store or of a document, these bounds are part of what it means.
-/

set_option autoImplicit false

namespace DurableJobs

/-- How many numbers so many bits tell apart. -/
def countOfBits (bits : Nat) : Nat := Nat.pow 2 bits

/-- The least number with a sign. -/
def leastSigned (bits : Nat) : Int := -(countOfBits (bits - 1) : Int)

/-- The greatest number with a sign. -/
def greatestSigned (bits : Nat) : Int := (countOfBits (bits - 1) : Int) - 1

/-- The greatest number without a sign. -/
def greatestUnsigned (bits : Nat) : Nat := countOfBits bits - 1

def fitsSigned (bits : Nat) (n : Int) : Bool := leastSigned bits ≤ n && n ≤ greatestSigned bits

theorem fitsSigned_iff (bits : Nat) (n : Int) :
    fitsSigned bits n = true ↔ leastSigned bits ≤ n ∧ n ≤ greatestSigned bits := by
  simp [fitsSigned]

/-- A number with a sign, if the width holds it. -/
def signed? (bits : Nat) (n : Int) : Option Int := if fitsSigned bits n then some n else none

/-- A number without a sign, if the width holds it. -/
def unsigned? (bits : Nat) (n : Nat) : Option Nat := if n ≤ greatestUnsigned bits then some n else none

end DurableJobs
