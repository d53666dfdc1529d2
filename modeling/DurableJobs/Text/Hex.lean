/-!
# Bytes in hexadecimal

Two lower-case digits for each byte.
-/

set_option autoImplicit false

namespace DurableJobs.Text

/-- The value of a hexadecimal digit of either case. -/
def hexValue? (c : Char) : Option Nat :=
  if '0' ≤ c ∧ c ≤ '9' then some (c.toNat - '0'.toNat)
  else if 'a' ≤ c ∧ c ≤ 'f' then some (c.toNat - 'a'.toNat + 10)
  else if 'A' ≤ c ∧ c ≤ 'F' then some (c.toNat - 'A'.toNat + 10)
  else none

def hexDigit (n : Nat) : Char := Nat.digitChar n

def hexOfBytes (bytes : List UInt8) : String :=
  String.ofList (bytes.flatMap fun b => [hexDigit (b.toNat / 16), hexDigit (b.toNat % 16)])

/-- The bytes of pairs of digits, up to the first pair that is none. -/
def bytesOfHex : List Char → List UInt8
  | a :: b :: rest =>
      match hexValue? a, hexValue? b with
      | some a, some b => UInt8.ofNat (a * 16 + b) :: bytesOfHex rest
      | _, _ => []
  | _ => []

end DurableJobs.Text
