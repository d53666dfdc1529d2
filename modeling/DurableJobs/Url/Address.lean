import DurableJobs.Text.Digits
import DurableJobs.Text.Split

/-!
# Internet addresses

The two kinds of address and their texts. An address of version 6 is eight pieces of 16 bits; `::` in
its text stands for one run of zero pieces, at least one, and the last two pieces may be written as an
address of version 4. Its canonical text shortens the first of the longest runs of two or more.

An address of version 4 has a strict text, four decimal numbers without leading zeros, and the lenient
one that hosts of URLs may have: one to four numbers, each decimal, octal or hexadecimal, the last of
which fills the bytes that are left.
-/

set_option autoImplicit false

namespace DurableJobs.Address

open DurableJobs.Text

/-! ## Version 4 -/

/-- One of the four numbers of a strict text. -/
def byteOfText? (cs : List Char) : Option Nat :=
  if 3 < cs.length ∨ (1 < cs.length ∧ cs.head? = some '0') then none
  else (numberIn? 10 cs).filter (· < 256)

/-- The four bytes of a strict text. -/
def strictV4? (cs : List Char) : Option (List Nat) :=
  let parts := splitOn '.' cs
  if parts.length = 4 then parts.mapM byteOfText? else none

/-- A number of a lenient text: hexadecimal behind `0x`, octal behind a zero, else decimal. -/
def lenientNumber? (cs : List Char) : Option Nat :=
  match cs with
  | '0' :: x :: rest =>
      if x = 'x' ∨ x = 'X' then (if rest.isEmpty then some 0 else numberIn? 16 rest)
      else numberIn? 8 (x :: rest)
  | cs => numberIn? 10 cs

/-- The parts of a dotted text; an empty last one does not count. -/
def dottedParts (cs : List Char) : List (List Char) :=
  let parts := splitOn '.' cs
  if parts.getLast? = some [] then parts.dropLast else parts

/-- Whether a host is to be read as an address: its last part is a number. -/
def endsInNumber (cs : List Char) : Bool :=
  match (dottedParts cs).getLast? with
  | none => false
  | some last => (!last.isEmpty && last.all Char.isDigit) || (lenientNumber? last).isSome

/-- The value of a lenient text. -/
def lenientV4? (cs : List Char) : Option Nat := do
  let parts := dottedParts cs
  if 4 < parts.length then none
  else
    let numbers ← parts.mapM lenientNumber?
    let last ← numbers.getLast?
    let first := numbers.dropLast
    if first.all (· < 256) ∧ last < Nat.pow 256 (4 - first.length) then
      some (ofDigits 256 first * Nat.pow 256 (4 - first.length) + last)
    else none

def v4Text (value : Nat) : List Char :=
  let byte (i : Nat) : String := toString (value / Nat.pow 256 i % 256)
  (byte 3 ++ "." ++ byte 2 ++ "." ++ byte 1 ++ "." ++ byte 0).toList

/-! ## Version 6 -/

/-- A piece: one to four hexadecimal digits. -/
def pieceOfText? (cs : List Char) : Option Nat :=
  if 4 < cs.length then none else numberIn? 16 cs

/-- The pieces between colons; with `dotted` the last of them may be an address of version 4. -/
def piecesOfTexts? (dotted : Bool) : List (List Char) → Option (List Nat)
  | [] => some []
  | [part] =>
      if dotted ∧ part.contains '.' then
        (strictV4? part).map fun bytes => [ofDigits 256 bytes / 65536, ofDigits 256 bytes % 65536]
      else (pieceOfText? part).map ([·])
  | part :: parts => do
      let piece ← pieceOfText? part
      let rest ← piecesOfTexts? dotted parts
      some (piece :: rest)

/-- The pieces of one side of `::`, which may be empty. -/
def sideOfText? (dotted : Bool) (cs : List Char) : Option (List Nat) :=
  if cs.isEmpty then some [] else piecesOfTexts? dotted (splitOn ':' cs)

/-- The text before and behind the first `::`. -/
def splitAtGap? : List Char → Option (List Char × List Char)
  | ':' :: ':' :: rest => some ([], rest)
  | c :: rest => (splitAtGap? rest).map fun (front, back) => (c :: front, back)
  | [] => none

/-- The eight pieces of an address. -/
def v6? (cs : List Char) : Option (List Nat) :=
  match splitAtGap? cs with
  | none => (piecesOfTexts? true (splitOn ':' cs)).filter (·.length == 8)
  | some (front, back) => do
      let front ← sideOfText? false front
      let back ← sideOfText? true back
      if front.length + back.length ≤ 7 then
        some (front ++ List.replicate (8 - front.length - back.length) 0 ++ back)
      else none

/-- The zeros at the front. -/
def zerosAhead (pieces : List Nat) : Nat := (pieces.takeWhile (· == 0)).length

/-- The longest run of zeros from `at_` on, as its start and length; of two the first. -/
def longestRun : Nat → List Nat → Nat × Nat
  | _, [] => (0, 0)
  | at_, piece :: rest =>
      let here := zerosAhead (piece :: rest)
      let later := longestRun (at_ + 1) rest
      if later.2 ≤ here then (at_, here) else later

def pieceText (n : Nat) : List Char := Nat.toDigits 16 n

def piecesText (pieces : List Nat) : List Char :=
  [':'].intercalate (pieces.map pieceText)

/-- The canonical text. -/
def v6Text (pieces : List Nat) : List Char :=
  let (start, length) := longestRun 0 pieces
  if length < 2 then piecesText pieces
  else
    piecesText (pieces.take start) ++ [':', ':'] ++ piecesText (pieces.drop (start + length))

end DurableJobs.Address
