import DurableJobs.Text.Hex

/-!
# Numbers from digits

What digits write in a base, the first digit the highest.
-/

set_option autoImplicit false

namespace DurableJobs.Text

/-- The value of a digit in a base of 16 at most. -/
def digitIn? (base : Nat) (c : Char) : Option Nat := (hexValue? c).filter (· < base)

/-- The number that digits write. -/
def ofDigits (base : Nat) (digits : List Nat) : Nat := digits.foldl (fun n d => n * base + d) 0

/-- The number that a text writes: digits and nothing else, at least one. -/
def numberIn? (base : Nat) (cs : List Char) : Option Nat :=
  if cs.isEmpty then none else (cs.mapM (digitIn? base)).map (ofDigits base)

end DurableJobs.Text
