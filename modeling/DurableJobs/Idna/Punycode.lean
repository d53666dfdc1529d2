import DurableJobs.Text.Split

/-!
# Punycode

A label with characters beyond ASCII, written in ASCII: its ASCII characters, a hyphen, and then one
number for each other character in ascending order, which says how many insertions of smaller code
points, at any place, lie between it and the one before. Numbers have a variable length: a digit below
its threshold is the last, and thresholds follow the size of the numbers that came before.
-/

set_option autoImplicit false

namespace DurableJobs.Idna.Punycode

open DurableJobs.Text

/-- The value of a digit: letters from zero, then the decimal digits. -/
def digitValue? (c : Char) : Option Nat :=
  if 'a' ≤ c ∧ c ≤ 'z' then some (c.toNat - 'a'.toNat)
  else if 'A' ≤ c ∧ c ≤ 'Z' then some (c.toNat - 'A'.toNat)
  else if '0' ≤ c ∧ c ≤ '9' then some (c.toNat - '0'.toNat + 26)
  else none

def digitChar (d : Nat) : Char :=
  if d < 26 then Char.ofNat ('a'.toNat + d) else Char.ofNat ('0'.toNat + d - 26)

/-- The threshold of the digit at `place`, which counts in steps of 36. -/
def threshold (bias place : Nat) : Nat :=
  if place ≤ bias then 1 else min 26 (place - bias)

theorem threshold_pos (bias place : Nat) : 1 ≤ threshold bias place := by
  unfold threshold
  split <;> omega

theorem threshold_le (bias place : Nat) : threshold bias place ≤ 26 := by
  unfold threshold
  split <;> omega

/-- Divide until a number is small, counting 36 for each time. -/
def settleBias (delta bias : Nat) : Nat :=
  if 455 < delta then settleBias (delta / 35) (bias + 36)
  else bias + 36 * delta / (delta + 38)
termination_by delta
decreasing_by omega

/-- The bias behind a number, given how many characters there are now. -/
def adapt (delta count : Nat) (first : Bool) : Nat :=
  let delta := if first then delta / 700 else delta / 2
  settleBias (delta + delta / count) 0

/-! ## Writing -/

/-- The digits of a number from `place` on. -/
def digitsOf (bias place n : Nat) : List Char :=
  let t := threshold bias place
  if n < t then [digitChar n]
  else digitChar (t + (n - t) % (36 - t)) :: digitsOf bias (place + 36) ((n - t) / (36 - t))
termination_by n
decreasing_by
  have h₁ := threshold_pos bias place
  calc (n - threshold bias place) / (36 - threshold bias place)
      ≤ n - threshold bias place := Nat.div_le_self _ _
    _ < n := by omega

/-- Where the writing stands: what is written, in reverse, the number that grows, the bias, and how many
characters have been taken. -/
structure Writing where
  written : List Char
  delta : Nat
  bias : Nat
  taken : Nat
  first : Bool

/-- Pass one character of the label while the code point `point` is written. -/
def Writing.pass (point : Nat) (w : Writing) (c : Char) : Writing :=
  if c.toNat < point then { w with delta := w.delta + 1 }
  else if c.toNat = point then
    { written := (digitsOf w.bias 36 w.delta).reverse ++ w.written
      delta := 0
      bias := adapt w.delta (w.taken + 1) w.first
      taken := w.taken + 1
      first := false }
  else w

/-- Write the characters of ascending code points, the last of which written was before `next`. -/
def writePoints (label : List Char) : List Nat → Nat → Writing → Writing
  | [], _, w => w
  | point :: points, next, w =>
      let w := { w with delta := w.delta + (point - next) * (w.taken + 1) }
      let w := label.foldl (Writing.pass point) w
      writePoints label points (point + 1) { w with delta := w.delta + 1 }

def isAscii (c : Char) : Bool := c.toNat < 0x80

/-- Ascending and each once. -/
def distinctPoints (points : List Nat) : List Nat := (points.mergeSort (· ≤ ·)).eraseDups

def encode (label : List Char) : List Char :=
  let basic := label.filter isAscii
  let points := distinctPoints ((label.filter fun c => !isAscii c).map Char.toNat)
  let w := writePoints label points 0x80 ⟨[], 0, 72, basic.length, true⟩
  basic ++ (if basic.isEmpty then [] else ['-']) ++ w.written.reverse

/-! ## Reading -/

/-- The number at the front of a text, added to `sum` in units of `weight`. -/
def number? (bias place weight sum : Nat) : List Char → Option (Nat × List Char)
  | [] => none
  | c :: cs => do
      let d ← digitValue? c
      let t := threshold bias place
      if d < t then some (sum + d * weight, cs)
      else number? bias (place + 36) (weight * (36 - t)) (sum + d * weight) cs

theorem number?_length {bias place weight sum : Nat} {cs : List Char} {n : Nat} {rest : List Char}
    (h : number? bias place weight sum cs = some (n, rest)) : rest.length < cs.length := by
  induction cs generalizing place weight sum with
  | nil => simp [number?] at h
  | cons c cs ih =>
    simp only [number?, Option.bind_eq_bind, Option.bind_eq_some_iff] at h
    obtain ⟨d, _, h⟩ := h
    split at h
    · cases h; simp
    · have := ih h
      simp only [List.length_cons]
      omega

/-- Put the characters that the numbers of a text tell into `label`. -/
def insertAll? (bias point index : Nat) (label : List Char) (cs : List Char) :
    Option (List Char) :=
  match cs with
  | [] => some label
  | c :: cs =>
      match h : number? bias 36 1 index (c :: cs) with
      | none => none
      | some (n, rest) =>
          let count := label.length + 1
          let point := point + n / count
          let place := n % count
          if point.isValidChar then
            insertAll? (adapt (n - index) count (index == 0)) point (place + 1)
              (label.insertIdx place (Char.ofNat point)) rest
          else none
termination_by cs.length
decreasing_by exact number?_length h

/-- Read what stands before the last hyphen, if anything does, and the numbers behind it. -/
def decode? (cs : List Char) : Option (List Char) :=
  let (basic, numbers) :=
    match cutAtLast? '-' cs with
    | some (b :: basic, numbers) => (b :: basic, numbers)
    | _ => ([], cs)
  if basic.all isAscii then insertAll? 72 0x80 0 basic numbers else none

end DurableJobs.Idna.Punycode
