import DurableJobs.Json.Value
import DurableJobs.Text.Decimal
import DurableJobs.Text.Scan
import DurableJobs.Text.Split
import DurableJobs.Time.Calendar

/-!
# Words, numbers and dates in TOML

The values that stand without quotes. A word is cut off by blanks and punctuation and then taken as a
whole for one of: a truth value, a number without end or none, a whole number in one of four bases, a
decimal number, a date or a time. Underscores may stand between digits and nowhere else. A date stays a
text, in its canonical form.
-/

set_option autoImplicit false

namespace DurableJobs.Config.Toml

open DurableJobs.Text (digitIn? ofDigits)

/-! ## Numbers -/

/-- Digits of a base, with single underscores between them. -/
def digitsIn? (base : Nat) (cs : List Char) : Option (List Nat) :=
  let groups := Text.splitOn '_' cs
  if groups.any List.isEmpty then none else groups.flatten.mapM (digitIn? base)

/-- No zero leads but a lone one. -/
def plainDigits? (cs : List Char) : Option (List Nat) :=
  match digitsIn? 10 cs with
  | some (0 :: _ :: _) => none
  | digits? => digits?

/-- The sign in front of a word, if there is one. -/
def cutSign (cs : List Char) : Option Bool × List Char :=
  match cs with
  | '-' :: cs => (some true, cs)
  | '+' :: cs => (some false, cs)
  | cs => (none, cs)

/-- A whole number that fits 64 bits. -/
def integer? (cs : List Char) : Option Int :=
  let based (base : Nat) (cs : List Char) : Option Int :=
    (digitsIn? base cs).map fun digits => (ofDigits base digits : Int)
  let n? :=
    match cutSign cs with
    | (none, '0' :: 'x' :: cs) => based 16 cs
    | (none, '0' :: 'o' :: cs) => based 8 cs
    | (none, '0' :: 'b' :: cs) => based 2 cs
    | (sign, cs) => (plainDigits? cs).map fun digits =>
        let n : Int := ofDigits 10 digits
        if sign = some true then -n else n
  n?.bind (signed? 64)

/-- The power of ten behind a decimal number. Zeros may lead in it. -/
def power? (cs : List Char) : Option Int :=
  let (sign, cs) := cutSign cs
  (digitsIn? 10 cs).map fun digits =>
    let n : Int := ofDigits 10 digits
    if sign = some true then -n else n

/-- A decimal number with a fraction, a power of ten or both. It may not be beyond all finite ones. -/
def float? (cs : List Char) : Option Binary64 := do
  let (sign, cs) := cutSign cs
  let negative := sign = some true
  match cs with
  | ['i', 'n', 'f'] => return .infinite negative
  | ['n', 'a', 'n'] => return .nan
  | cs =>
      let marked (c : Char) : Bool := c == '.' || c == 'e' || c == 'E'
      let _ ← if cs.any marked then some () else none
      let (mantissa, power) := Text.cutAt 'e' (cs.map fun c => if c = 'E' then 'e' else c)
      let (whole, fraction) := Text.cutAt '.' mantissa
      let whole ← plainDigits? whole
      let fraction ←
        match fraction with
        | some cs => digitsIn? 10 cs
        | none => some []
      let power ←
        match power with
        | some cs => power? cs
        | none => some 0
      let x := Binary64.ofDecimal negative (ofDigits 10 (whole ++ fraction))
        (power - fraction.length)
      if x.isFinite then some x else none

/-! ## Dates and times -/

/-- A number of exactly `width` digits that is not above `high`. -/
def fixed? (width high : Nat) (cs : List Char) : Option Nat :=
  if cs.length = width then (Text.numberIn? 10 cs).filter (· ≤ high) else none

/-- A day that exists. -/
def date? (cs : List Char) : Option (List Char) := do
  match Text.splitOn '-' cs with
  | [year, month, day] =>
      let date : Date := ⟨← fixed? 4 9999 year, ← fixed? 2 12 month, ← fixed? 2 31 day⟩
      let _ ← date.toDays?
      some cs
  | _ => none

/-- The part of a second: nine digits of it count, and zeros at the end are not written. -/
def fraction? (cs : List Char) : Option (List Char) :=
  if cs.isEmpty || !cs.all Char.isDigit then none
  else
    let digits := ((cs.take 9).reverse.dropWhile (· == '0')).reverse
    some (if digits.isEmpty then [] else '.' :: digits)

/-- A time of day. Seconds may be left out. -/
def time? (cs : List Char) : Option (List Char) := do
  match Text.splitOn ':' cs with
  | [hour, minute] =>
      let _ ← fixed? 2 23 hour
      let _ ← fixed? 2 59 minute
      some cs
  | [hour, minute, second] =>
      let _ ← fixed? 2 23 hour
      let _ ← fixed? 2 59 minute
      let (second, fraction) := Text.cutAt '.' second
      let _ ← fixed? 2 60 second
      let fraction ←
        match fraction with
        | some cs => fraction? cs
        | none => some []
      some (hour ++ ':' :: minute ++ ':' :: second ++ fraction)
  | _ => none

/-- The distance from universal time. -/
def offset? (cs : List Char) : Option (List Char) :=
  match cs with
  | ['Z'] | ['z'] => some ['Z']
  | sign :: cs => do
      let _ ← if sign = '+' ∨ sign = '-' then some () else none
      match Text.splitOn ':' cs with
      | [hour, minute] =>
          let _ ← fixed? 2 23 hour
          let _ ← fixed? 2 59 minute
          some (sign :: cs)
      | _ => none
  | [] => none

def isOffsetStart (c : Char) : Bool := c == 'Z' || c == 'z' || c == '+' || c == '-'

/-- A date, a time of day, or both with or without an offset, in canonical form. -/
def dateTime? (cs : List Char) : Option (List Char) :=
  match date? cs, time? cs with
  | some date, _ => some date
  | none, some time => some time
  | none, none => do
      let date ← date? (cs.take 10)
      match cs.drop 10 with
      | mark :: cs =>
          let _ ← if mark = 'T' ∨ mark = 't' ∨ mark = ' ' then some () else none
          let time ← time? (cs.takeWhile (!isOffsetStart ·))
          match cs.dropWhile (!isOffsetStart ·) with
          | [] => some (date ++ 'T' :: time)
          | cs => do some (date ++ 'T' :: time ++ (← offset? cs))
      | [] => none

/-! ## Words -/

/-- What a word stands for. -/
def valueOfWord? (cs : List Char) : Option Json.Value :=
  match String.ofList cs with
  | "true" => some (.bool true)
  | "false" => some (.bool false)
  | _ =>
      match integer? cs, float? cs, dateTime? cs with
      | some n, _, _ => some (.number (.whole n))
      | none, some x, _ => some (.number (.fraction x))
      | none, none, some text => some (.string (String.ofList text))
      | none, none, none => none

def isWordChar (c : Char) : Bool :=
  c.isAlphanum || c == '_' || c == '+' || c == '-' || c == '.' || c == ':'

/-- A day and a time may be parted by a blank. -/
def isDayBeforeTime (word rest : List Char) : Bool :=
  (date? word).isSome &&
    match rest with
    | ' ' :: a :: b :: ':' :: _ => a.isDigit && b.isDigit
    | _ => false

/-- A value without quotes. -/
def word : Text.Scan Json.Value := do
  let front ← Text.Scan.takeWhile isWordChar
  let cs ←
    if isDayBeforeTime front (← get) then do
      let _ ← Text.Scan.next
      pure (front ++ ' ' :: (← Text.Scan.takeWhile isWordChar))
    else pure front
  match valueOfWord? cs with
  | some value => return value
  | none => failure

end DurableJobs.Config.Toml
