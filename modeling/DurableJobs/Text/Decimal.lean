import DurableJobs.Numeric.Binary64
import DurableJobs.Numeric.Width
import DurableJobs.Text.Digits

/-!
# Decimal numbers in texts

Whole numbers and fractions as they are written by hand: digits, with an optional sign, a point among
or around them and a power of ten behind.
-/

set_option autoImplicit false

namespace DurableJobs.Text

/-- A whole number with an optional sign. -/
def signedDigits? : List Char → Option Int
  | '-' :: cs => (numberIn? 10 cs).map fun n : Nat => -(n : Int)
  | '+' :: cs => (numberIn? 10 cs).map Int.ofNat
  | cs => (numberIn? 10 cs).map Int.ofNat

/-- A whole number with an optional plus sign. -/
def unsignedDigits? : List Char → Option Nat
  | '+' :: cs => numberIn? 10 cs
  | cs => numberIn? 10 cs

/-- A whole number of 64 bits with a sign. -/
def int64? (cs : List Char) : Option Int := (signedDigits? cs).bind (signed? 64)

/-- A whole number of 64 bits without one. -/
def nat64? (cs : List Char) : Option Nat := (unsignedDigits? cs).bind (unsigned? 64)

/-- The sign in front of a number: whether it is negative, and what follows. -/
def cutSign : List Char → Bool × List Char
  | '-' :: cs => (true, cs)
  | '+' :: cs => (false, cs)
  | cs => (false, cs)

/-- The power of ten behind a number: nothing, or a mark and a whole number with an optional sign. -/
def power? : List Char → Option Int
  | [] => some 0
  | mark :: cs => if mark = 'e' ∨ mark = 'E' then signedDigits? cs else none

/-- A number in decimal notation: digits with at most one point among or around them, and a power of
ten; or a word for a number without end or for none. -/
def float? (cs : List Char) : Option Binary64 :=
  let (negative, cs) := cutSign cs
  match (String.ofList cs).toLower with
  | "inf" | "infinity" => some (.infinite negative)
  | "nan" => some .nan
  | _ =>
      let whole := cs.takeWhile Char.isDigit
      let (fraction, rest) :=
        match cs.dropWhile Char.isDigit with
        | '.' :: cs => (cs.takeWhile Char.isDigit, cs.dropWhile Char.isDigit)
        | cs => ([], cs)
      match numberIn? 10 (whole ++ fraction), power? rest with
      | some digits, some power => some (.ofDecimal negative digits (power - fraction.length))
      | _, _ => none

end DurableJobs.Text
