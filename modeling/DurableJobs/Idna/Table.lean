import DurableJobs.Text.Hex

/-!
# Tables of a character standard

A table is kept as its text: entries separated by blanks or line ends, the numbers of an entry in hexadecimal and
separated by points. A range is an entry of one number or of two, its ends; both belong to it.
-/

set_option autoImplicit false

namespace DurableJobs.Idna

open DurableJobs.Text

/-- The entries read so far, the entry at hand in reverse, and the number at hand if one has begun. -/
structure TableReader where
  entries : List (List Nat)
  entry : List Nat
  number : Option Nat

namespace TableReader

def endNumber (r : TableReader) : TableReader :=
  match r.number with
  | some n => ⟨r.entries, n :: r.entry, none⟩
  | none => r

def endEntry (r : TableReader) : TableReader :=
  let r := r.endNumber
  if r.entry.isEmpty then r else ⟨r.entry.reverse :: r.entries, [], none⟩

def read (r : TableReader) (c : Char) : TableReader :=
  match hexValue? c with
  | some d => { r with number := some (r.number.getD 0 * 16 + d) }
  | none => if c = '.' then r.endNumber else r.endEntry

end TableReader

/-- The entries of a table's text. -/
def tableOf (text : String) : List (List Nat) :=
  (text.foldl TableReader.read ⟨[], [], none⟩).endEntry.entries.reverse

/-- Whether a range holds a code point. -/
def rangeHolds (point : Nat) : List Nat → Bool
  | [only] => only == point
  | first :: last :: _ => first ≤ point && point ≤ last
  | [] => false

def inTable (table : List (List Nat)) (point : Nat) : Bool := table.any (rangeHolds point)

/-- The numbers behind the code point in its entry. -/
def entry? (table : List (List Nat)) (point : Nat) : Option (List Nat) :=
  (table.find? fun entry => entry.head? == some point).map List.tail

end DurableJobs.Idna
