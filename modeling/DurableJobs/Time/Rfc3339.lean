import DurableJobs.Numeric.Width
import DurableJobs.Text.Blank
import DurableJobs.Text.Digits
import DurableJobs.Time.Instant

/-!
# RFC 3339 text

How an instant is written and read. Writing is canonical: a year of four digits or, beyond them, with
a sign and five columns; no fraction or one of 3, 6 or 9 digits, the fewest that lose nothing. The
store writes the zero offset as `+00:00` and a JSON document writes it as `Z`; that is the one
difference between the two forms.

Reading is lenient about blanks, the number of digits, the separator of date and time and the form of
the offset, and strict about the order and range of the fields: a field out of range is reported as
soon as it has been read, before anything that stands behind it.
-/

set_option autoImplicit false

namespace DurableJobs

open DurableJobs.Text

namespace Rfc3339

/-! ## Writing -/

/-- A number in at least `width` digits. -/
def padded (width n : Nat) : List Char :=
  let digits := Nat.toDigits 10 n
  List.replicate (width - digits.length) '0' ++ digits

def yearText (year : Int) : List Char :=
  if 0 ≤ year ∧ year ≤ 9999 then padded 4 year.toNat
  else (if year < 0 then '-' else '+') :: padded 4 year.natAbs

/-- The fraction of a second, in thousands of the unit that loses nothing. -/
def fractionText (nanos : Nat) : List Char :=
  if nanos = 0 then []
  else if nanos % 1000000 = 0 then '.' :: padded 3 (nanos / 1000000)
  else if nanos % 1000 = 0 then '.' :: padded 6 (nanos / 1000)
  else '.' :: padded 9 nanos

/-- Date and time of day at universal time, without an offset. A leap second is written as second 60. -/
def localText (at_ : Instant) : List Char :=
  let (date, second) := at_.dateAndSecond
  let leap := 1000000000 ≤ at_.nanos
  let nanos := if leap then at_.nanos - 1000000000 else at_.nanos
  yearText date.year ++ '-' :: padded 2 date.month ++ '-' :: padded 2 date.day ++
    'T' :: padded 2 (second / 3600) ++ ':' :: padded 2 (second / 60 % 60) ++
    ':' :: padded 2 (second % 60 + if leap then 1 else 0) ++ fractionText nanos

/-- The text an instant is stored as, in universal time. -/
def stored (at_ : Instant) : List Char := localText at_ ++ ['+', '0', '0', ':', '0', '0']

def offsetText (offset : Int) : List Char :=
  if offset = 0 then ['Z']
  else
    let minutes := offset.natAbs / 60
    (if offset < 0 then '-' else '+') :: padded 2 (minutes / 60) ++ ':' :: padded 2 (minutes % 60)

/-- The text of a timestamp in a document: the time of day at its own offset. -/
def document (t : Timestamp) : List Char :=
  localText ⟨t.instant.seconds + t.offset, t.instant.nanos, t.instant.nanos_lt⟩ ++
    offsetText t.offset

end Rfc3339

namespace Timestamp

open Rfc3339

/-- The same time at universal time. -/
def toUtc (t : Timestamp) : Timestamp := .utc t.instant

/-- An offset in hours and minutes behind its sign, to the nearest minute. -/
def offsetColumns (offset : Int) : List Char :=
  let minutes := (offset.natAbs + 30) / 60
  (if offset < 0 then '-' else '+') :: (padded 2 (minutes / 60) ++ ':' :: padded 2 (minutes % 60))

/-- The text of a time in the store: the time of day at its own offset, and the offset in full. Times are
stored at universal time, where the text is `Rfc3339.stored`. -/
def written : Timestamp → List Char
  | ⟨⟨seconds, nanos, h⟩, offset⟩ => localText ⟨seconds + offset, nanos, h⟩ ++ offsetColumns offset

end Timestamp

namespace Rfc3339

/-! ## Reading -/

inductive Flaw where
  | outOfRange
  | impossible
  | invalid
  | tooShort
  | tooLong
  deriving DecidableEq, Repr

def Flaw.text : Flaw → String
  | .outOfRange => "input is out of range"
  | .impossible => "no possible date and time matching input"
  | .invalid => "input contains invalid characters"
  | .tooShort => "premature end of input"
  | .tooLong => "trailing input"

abbrev Scan (α : Type) := Except Flaw (α × List Char)

/-- The digits at the front, at most `limit` of them. -/
def spanDigits : Nat → List Char → List Nat × List Char
  | 0, cs => ([], cs)
  | _ + 1, [] => ([], [])
  | limit + 1, c :: cs =>
      match digitIn? 10 c with
      | some d => let (ds, rest) := spanDigits limit cs; (d :: ds, rest)
      | none => ([], c :: cs)

/-- A number of one to `limit` digits, which has to fit 64 bits. -/
def number (limit : Nat) (cs : List Char) : Except Flaw (Nat × List Char) :=
  match cs with
  | [] => .error .tooShort
  | _ =>
      match spanDigits limit cs with
      | ([], _) => .error .invalid
      | (ds, rest) =>
          let n := ofDigits 10 ds
          if fitsSigned 64 n then .ok (n, rest) else .error .outOfRange

/-- A field behind blanks, of at most two digits and inside its range. -/
def field (low high : Nat) (cs : List Char) : Except Flaw (Nat × List Char) := do
  let (n, rest) ← number 2 (trimStart cs)
  if low ≤ n ∧ n ≤ high then .ok (n, rest) else .error .outOfRange

/-- A year behind blanks: four digits at most, or any number of them behind a sign. -/
def year (cs : List Char) : Except Flaw (Int × List Char) := do
  let (n, rest) ←
    match trimStart cs with
    | '-' :: rest => (number rest.length rest).map fun (n, rest) => (-(n : Int), rest)
    | '+' :: rest => (number rest.length rest).map fun (n, rest) => ((n : Int), rest)
    | rest => (number 4 rest).map fun (n, rest) => ((n : Int), rest)
  if fitsSigned 32 n then .ok (n, rest) else .error .outOfRange

/-- A separator behind blanks. -/
def separator (c : Char) (cs : List Char) : Except Flaw (List Char) :=
  match trimStart cs with
  | [] => .error .tooShort
  | d :: rest => if d = c then .ok rest else .error .invalid

/-- The fraction of a second, if a point starts one; digits beyond the ninth are dropped. -/
def fraction (cs : List Char) : Except Flaw (Nat × List Char) :=
  match cs with
  | '.' :: rest =>
      match rest with
      | [] => .error .tooShort
      | _ =>
          match spanDigits 9 rest with
          | ([], _) => .error .invalid
          | (ds, rest) =>
              .ok (ofDigits 10 ds * Nat.pow 10 (9 - ds.length), rest.dropWhile fun c => (digitIn? 10 c).isSome)
  | _ => .ok (0, cs)

/-- Two digits of an offset. -/
def pair (cs : List Char) : Except Flaw (Nat × Nat × List Char) :=
  match cs with
  | a :: b :: rest =>
      match digitIn? 10 a, digitIn? 10 b with
      | some a, some b => .ok (a, b, rest)
      | _, _ => .error .invalid
  | [a] => if a.utf8Size < 2 then .error .tooShort else .error .invalid
  | [] => .error .tooShort

/-- Hours and minutes of an offset behind its sign, a colon or blanks between them. -/
def offsetBody (cs : List Char) : Except Flaw (Nat × List Char) := do
  let (h₁, h₂, cs) ← pair cs
  let (m₁, m₂, cs) ← pair (cs.dropWhile fun c => c == ':' || isBlank c)
  if 6 ≤ m₁ then .error .outOfRange
  else .ok ((h₁ * 10 + h₂) * 3600 + (m₁ * 10 + m₂) * 60, cs)

/-- An offset in seconds: `Z`, `UTC`, or a sign with hours and minutes. -/
def offset (cs : List Char) : Except Flaw (Int × List Char) :=
  match cs with
  | [] => .error .tooShort
  | c :: rest =>
      if c = 'Z' ∨ c = 'z' then .ok (0, rest)
      else if (cs.take 3).map Char.toUpper = ['U', 'T', 'C'] then .ok (0, cs.drop 3)
      else if c = '+' then (offsetBody rest).map fun (n, rest) => ((n : Int), rest)
      else if c = '-' ∨ c = '\u2212' then
        (offsetBody rest).map fun (n, rest) => (-(n : Int), rest)
      else .error .invalid

/-- A timestamp and what stands behind it. -/
def scan (cs : List Char) : Except Flaw (Timestamp × List Char) := do
  let (y, cs) ← year cs
  let cs ← separator '-' cs
  let (mo, cs) ← field 1 12 cs
  let cs ← separator '-' cs
  let (d, cs) ← field 1 31 cs
  let cs ←
    match cs with
    | [] => .error .tooShort
    | c :: rest => if c = 'T' ∨ c = 't' ∨ c = ' ' then .ok rest else .error .invalid
  let (h, cs) ← field 0 23 cs
  let cs ← separator ':' cs
  let (mi, cs) ← field 0 59 cs
  let cs ← separator ':' cs
  let (s, cs) ← field 0 60 cs
  let (fraction, cs) ← fraction cs
  let (offset, cs) ← offset (trimStart cs)
  match (Date.mk y mo d).toDays? with
  | none => .error .outOfRange
  | some days =>
      if y < Instant.leastYear ∨ Instant.greatestYear < y ∨ 86400 ≤ offset.natAbs then
        .error .outOfRange
      else
        let second : Int := h * 3600 + mi * 60 + (min s 59 : Nat)
        let at_ := (days - Instant.epochDays) * 86400 + second - offset
        let nanos := fraction + if s = 60 then 1000000000 else 0
        if h : nanos < 2000000000 then
          if Instant.inRange at_ then .ok (⟨⟨at_, nanos, h⟩, offset⟩, cs) else .error .impossible
        else .error .outOfRange

/-- A text that is a timestamp and nothing else but blanks. -/
def parse (s : String) : Except Flaw Timestamp := do
  let (t, rest) ← scan s.toList
  if (trimStart rest).isEmpty then .ok t else .error .tooLong

end Rfc3339

end DurableJobs
