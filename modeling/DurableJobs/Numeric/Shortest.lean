import DurableJobs.Numeric.Binary64

/-!
# The shortest decimal text of a binary64 number

A number is written with the fewest decimal digits that read back as it, and of the decimals of that
length with the one nearest to it. All of it is exact arithmetic: the decimals that read back form an
interval around the number, and for one digit, two digits, … the number's two neighbours on that
decimal grid are tested against the interval. The first grid with a hit wins.

`Shortest.digits` finds the digits; `Shortest.text` lays them out.
-/

set_option autoImplicit false

namespace DurableJobs

/-- A positive decimal `0.d₁d₂… * 10^point`, its digits most significant first. -/
structure Shortest where
  digits : List Nat
  point : Int
  deriving DecidableEq, Repr

namespace Shortest

/-- Decimal digits of a number, most significant first; none for zero. -/
def digitsOf (n : Nat) : List Nat := (Nat.toDigits 10 n).map fun c => c.toNat - '0'.toNat

/-- The interval of reals that round to `m * 2^e`, over one common denominator: the two ends, the
number itself and the denominator. Below a power of two the grid is twice as fine. -/
def interval (m : Nat) (e : Int) : Nat × Nat × Nat × Nat :=
  let low := if m = Nat.pow 2 52 ∧ Binary64.leastExponent < e then 4 * m - 1 else 4 * m - 2
  let high := 4 * m + 2
  if 2 ≤ e then
    let unit := Nat.pow 2 (e - 2).toNat
    (low * unit, 4 * m * unit, high * unit, 1)
  else (low, 4 * m, high, Nat.pow 2 (2 - e).toNat)

/-- The decimal exponent `k` with `10^(k-1) ≤ num / den < 10^k`, searched upward from a lower bound. -/
def pointFrom : Nat → Int → Nat → Nat → Int
  | 0, k, _, _ => k
  | fuel + 1, k, num, den =>
      let below := if 0 ≤ k then num < den * Nat.pow 10 k.toNat else num * Nat.pow 10 (-k).toNat < den
      if below then k else pointFrom fuel (k + 1) num den

/-- A lower bound of the decimal exponent from the binary lengths, and then the search. -/
def pointOf (num den : Nat) : Int :=
  let bits : Int := (num.log2 : Int) - (den.log2 : Int)
  let guess : Int := if 0 ≤ bits then (bits - 1) * 30 / 100 else (bits - 1) * 31 / 100
  pointFrom 400 (guess - 1) num den

/-- The neighbour of `num / den` on the grid of `count` digits that reads back, if there is one: of
two the nearer, and of two equally near the even one. -/
def onGrid? (low num high den : Nat) (closed : Bool) (point : Int) (count : Nat) : Option Nat :=
  let shift : Int := point - (count : Int)
  -- Everything is multiplied up so that one step of the grid is `step`.
  let scale := if 0 ≤ shift then 1 else Nat.pow 10 (-shift).toNat
  let step := if 0 ≤ shift then den * Nat.pow 10 shift.toNat else den
  let value := num * scale
  let inside (candidate : Nat) : Bool :=
    let x := candidate * step
    if closed then low * scale ≤ x && x ≤ high * scale else low * scale < x && x < high * scale
  let down := value / step
  let up := down + 1
  match inside down, inside up with
  | true, true =>
      let left := value - down * step
      let right := up * step - value
      if left < right then some down
      else if right < left then some up
      else some (if down % 2 = 0 then down else up)
  | true, false => some down
  | false, true => some up
  | false, false => none

/-- The first grid with a hit; seventeen digits always have one. -/
def search (low num high den : Nat) (closed : Bool) (point : Int) : Nat → Nat → Nat × Nat
  | 0, count => (0, count)
  | fuel + 1, count =>
      match onGrid? low num high den closed point count with
      | some n => (n, count)
      | none => search low num high den closed point fuel (count + 1)

/-- The digits of `m * 2^e`, a positive number. -/
def ofParts (m : Nat) (e : Int) : Shortest :=
  let (low, num, high, den) := interval m e
  let point := pointOf num den
  let (n, count) := search low num high den (m % 2 == 0) point 18 1
  let all := digitsOf n
  let point := point + ((all.length : Int) - (count : Int))
  ⟨(all.reverse.dropWhile (· == 0)).reverse, point⟩

/-! ## Layouts -/

def digitText (ds : List Nat) : String :=
  String.ofList (ds.map fun d => Char.ofNat ('0'.toNat + d))

def zeros (n : Nat) : String := String.ofList (List.replicate n '0')

/-- Plain positional notation; `mark` is put behind a whole number. -/
def positional (s : Shortest) (mark : String) : String :=
  let count : Int := s.digits.length
  if s.point ≤ 0 then "0." ++ zeros (-s.point).toNat ++ digitText s.digits
  else if count ≤ s.point then digitText s.digits ++ zeros (s.point - count).toNat ++ mark
  else digitText (s.digits.take s.point.toNat) ++ "." ++ digitText (s.digits.drop s.point.toNat)

/-- One digit, a point, the rest of the digits and a signed exponent of at least `width` digits. -/
def scientific (s : Shortest) (width : Nat) : String :=
  let exponent := s.point - 1
  let power := toString exponent.natAbs
  let fraction := s.digits.drop 1
  digitText (s.digits.take 1) ++ (if fraction.isEmpty then "" else "." ++ digitText fraction) ++
    "e" ++ (if exponent < 0 then "-" else "+") ++ zeros (width - power.length) ++ power

/-- A layout of decimal text: the exponents that stay positional, what marks a whole number, and how
wide an exponent is at least. -/
structure Layout where
  leastPoint : Int
  greatestPoint : Int
  wholeMark : String
  exponentWidth : Nat
  deriving Repr

def layOut (layout : Layout) (s : Shortest) : String :=
  if layout.leastPoint < s.point ∧ s.point ≤ layout.greatestPoint then s.positional layout.wholeMark
  else s.scientific layout.exponentWidth

end Shortest

namespace Binary64

/-- The text of a number in a layout; a zero is written like a whole number. -/
def text (layout : Shortest.Layout) : Binary64 → String
  | .nan => "NaN"
  | .infinite negative => if negative then "-inf" else "inf"
  | .finite negative significand exponent =>
      (if negative then "-" else "") ++
        (if significand = 0 then "0" ++ layout.wholeMark
         else (Shortest.ofParts significand exponent).layOut layout)

/-- Positional at every size, and a whole number keeps no point. -/
def plainLayout : Shortest.Layout := ⟨-100000, 100000, "", 1⟩

/-- Positional at every size, and a whole number keeps its point. -/
def pointedLayout : Shortest.Layout := ⟨-100000, 100000, ".0", 1⟩

end Binary64

end DurableJobs
