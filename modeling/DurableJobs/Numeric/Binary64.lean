/-!
# Binary64 numbers with exact arithmetic

Rates, retry hints and the fractions of a JSON document are binary64 numbers. They are kept here as
what they mean, a signed whole significand and a power of two, so that every operation is exact
arithmetic on natural numbers followed by one rounding, and a law about them is a law about `Nat`.
The machine's floating point unit is never asked.

Every finite number is *canonical*: its significand is below `2^53`, and is at least `2^52` unless
the exponent is the least one. `Binary64.ofRatio` is the only place that rounds: to the nearest
number, and a half way case to the even significand.
-/

set_option autoImplicit false

namespace DurableJobs

/-- A binary64 number; `finite negative significand exponent` is `±significand * 2^exponent`. -/
inductive Binary64 where
  | nan
  | infinite (negative : Bool)
  | finite (negative : Bool) (significand : Nat) (exponent : Int)
  deriving DecidableEq, Repr, Inhabited

namespace Binary64

/-- The least exponent: numbers with it and a short significand are the subnormal ones. -/
def leastExponent : Int := -1074

/-- The exponent of the largest finite numbers. -/
def greatestExponent : Int := 971

def zero (negative : Bool) : Binary64 := .finite negative 0 leastExponent

/-! ## Rounding a ratio -/

/-- The floor of `num / den / 2^exponent` with the remainder and the divisor it was taken by. -/
def scaledQuotient (num den : Nat) (exponent : Int) : Nat × Nat × Nat :=
  if 0 ≤ exponent then
    let divisor := den * Nat.pow 2 exponent.toNat
    (num / divisor, num % divisor, divisor)
  else
    let dividend := num * Nat.pow 2 (-exponent).toNat
    (dividend / den, dividend % den, den)

/-- Round the quotient `q + r / d` to the nearest whole number, a half to the even neighbour. -/
def roundHalfEven (q r d : Nat) : Nat :=
  if d < 2 * r then q + 1
  else if 2 * r < d then q
  else if q % 2 = 0 then q else q + 1

/-- The exponent at which `num / den` has a significand of 53 bits, or the least exponent. -/
def exponentOfRatio (num den : Nat) : Int :=
  let guess := max leastExponent ((num.log2 : Int) - (den.log2 : Int) - 53)
  if Nat.pow 2 53 ≤ (scaledQuotient num den guess).1 then guess + 1 else guess

/-- The number nearest to `±num / den`; a ratio beyond the largest number is infinite.
A zero denominator is taken as a zero number. -/
def ofRatio (negative : Bool) (num den : Nat) : Binary64 :=
  if num = 0 ∨ den = 0 then zero negative
  else
    let exponent := exponentOfRatio num den
    let (q, r, d) := scaledQuotient num den exponent
    let rounded := roundHalfEven q r d
    let (significand, exponent) :=
      if rounded = Nat.pow 2 53 then (Nat.pow 2 52, exponent + 1) else (rounded, exponent)
    if greatestExponent < exponent then .infinite negative
    else .finite negative significand exponent

def ofNat (n : Nat) : Binary64 := ofRatio false n 1

def ofInt (n : Int) : Binary64 := ofRatio (n < 0) n.natAbs 1

/-- The number nearest to `±digits * 10^exponent`. The exponent is cut to the range in which it can
matter before any power is taken, so a text like `1e999999999` costs nothing. -/
def ofDecimal (negative : Bool) (digits : Nat) (exponent : Int) : Binary64 :=
  if digits = 0 then zero negative
  else
    let width : Int := (Nat.log2 digits / 3 : Nat) + 2
    if 310 < exponent then .infinite negative
    else if exponent + width < -340 then zero negative
    else if 0 ≤ exponent then ofRatio negative (digits * Nat.pow 10 exponent.toNat) 1
    else ofRatio negative digits (Nat.pow 10 (-exponent).toNat)

/-! ## Parts of a number -/

def isNan : Binary64 → Bool
  | .nan => true
  | _ => false

def isFinite : Binary64 → Bool
  | .finite .. => true
  | _ => false

def isNegative : Binary64 → Bool
  | .nan => false
  | .infinite negative => negative
  | .finite negative _ _ => negative

def isZero : Binary64 → Bool
  | .finite _ significand _ => significand == 0
  | _ => false

/-- Above zero: neither zero, nor negative, nor a NaN. -/
def isPositive (x : Binary64) : Bool := !x.isNan && !x.isNegative && !x.isZero

/-- The magnitude of a finite number as a ratio of natural numbers. -/
def ratio (significand : Nat) (exponent : Int) : Nat × Nat :=
  if 0 ≤ exponent then (significand * Nat.pow 2 exponent.toNat, 1)
  else (significand, Nat.pow 2 (-exponent).toNat)

def neg : Binary64 → Binary64
  | .nan => .nan
  | .infinite negative => .infinite (!negative)
  | .finite negative significand exponent => .finite (!negative) significand exponent

/-! ## Product and quotient -/

def mul : Binary64 → Binary64 → Binary64
  | .nan, _ | _, .nan => .nan
  | .infinite s, .infinite t => .infinite (s != t)
  | .infinite s, .finite t m _ | .finite t m _, .infinite s =>
      if m = 0 then .nan else .infinite (s != t)
  | .finite s m e, .finite t n f =>
      let (a, b) := ratio m e
      let (c, d) := ratio n f
      ofRatio (s != t) (a * c) (b * d)

def div : Binary64 → Binary64 → Binary64
  | .nan, _ | _, .nan => .nan
  | .infinite _, .infinite _ => .nan
  | .infinite s, .finite t _ _ => .infinite (s != t)
  | .finite s _ _, .infinite t => zero (s != t)
  | .finite s m e, .finite t n f =>
      if n = 0 then (if m = 0 then .nan else .infinite (s != t))
      else
        let (a, b) := ratio m e
        let (c, d) := ratio n f
        ofRatio (s != t) (a * d) (b * c)

/-! ## The bit pattern -/

/-- The 64 bits as a natural number. All NaNs share the quiet one without payload. -/
def toBits : Binary64 → Nat
  | .nan => 0x7ff8000000000000
  | .infinite negative => (if negative then Nat.pow 2 63 else 0) + 0x7ff0000000000000
  | .finite negative significand exponent =>
      (if negative then Nat.pow 2 63 else 0) +
        (if significand < Nat.pow 2 52 then significand
         else (exponent + 1075).toNat * Nat.pow 2 52 + (significand - Nat.pow 2 52))

/-! ## Whole numbers -/

/-- The nearest whole number, a half away from zero; `none` for a NaN or an infinite number. -/
def round? : Binary64 → Option Int
  | .finite negative significand exponent =>
      let (num, den) := ratio significand exponent
      let magnitude : Int := ((2 * num + den) / (2 * den) : Nat)
      some (if negative then -magnitude else magnitude)
  | _ => none

/-- The whole number nearest to `x * scale`, a half to the even neighbour, for an `x` that is not
negative. -/
def scaledNat? (x : Binary64) (scale : Nat) : Option Nat :=
  match x with
  | .finite negative significand exponent =>
      let (num, den) := ratio significand exponent
      let n := num * scale
      if negative && significand != 0 then none
      else some (roundHalfEven (n / den) (n % den) den)
  | _ => none

end Binary64

end DurableJobs
