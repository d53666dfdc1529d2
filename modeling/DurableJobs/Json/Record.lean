import DurableJobs.Json.Codec

/-!
# Records

A record is a list of named fields, each with its codec; what it holds is a `Row`, one value for each
field in order. A document may give a record as an object, its members in any order and unknown ones
passed over, or as a list of the values in the order of the fields.

An error that concerns the record as a whole (a field given twice, a field missing, a list too short) is
placed where the record ends: what is left of it is closed first.
-/

set_option autoImplicit false

namespace DurableJobs.Json

structure Field where
  name : String
  Carrier : Type
  codec : Codec Carrier

/-- A field from its name and codec. -/
def field {α : Type} (name : String) (codec : Codec α) : Field := ⟨name, α, codec⟩

/-- One value for each field. -/
def Row : List Field → Type
  | [] => Unit
  | f :: fs => f.Carrier × Row fs

/-- The values found so far. -/
def Draft : List Field → Type
  | [] => Unit
  | f :: fs => Option f.Carrier × Draft fs

def Draft.empty : (fs : List Field) → Draft fs
  | [] => ()
  | _ :: fs => (none, Draft.empty fs)

/-- Why a record cannot be read: at a place of its own, or as a whole, with the cursor reached. -/
inductive Fault where
  | placed (error : Error)
  | whole (mismatch : Mismatch) (c : Cursor)

/-- An error of a part is placed already. -/
def atPlace {α : Type} (result : Except Error α) : Except Fault α := result.mapError .placed

/-! ## Objects -/

/-- Read the value of a member into its field; a key that is no field's is passed over. -/
def readMemberInto (key : String) :
    (fs : List Field) → Draft fs → Cursor → Except Fault (Draft fs × Cursor)
  | [], _, c => do
      let c ← atPlace (readColon c)
      let c ← atPlace (skipValue c)
      .ok ((), c)
  | f :: fs, (slot, rest), c =>
      if f.name = key then
        if slot.isSome then .error (.whole (.duplicateField key) c)
        else do
          let c ← atPlace (readColon c)
          let (value, c) ← atPlace (f.codec.read c)
          .ok ((some value, rest), c)
      else do
        let (rest, c) ← readMemberInto key fs rest c
        .ok ((slot, rest), c)

/-- The members of an object up to its brace, which stays. -/
def readDraft (fs : List Field) : Nat → Bool → Draft fs → Cursor → Except Fault (Draft fs × Cursor)
  | 0, _, _, c => atPlace (c.failNext .endInObject)
  | fuel + 1, first, draft, c => do
      match ← atPlace (nextKey first c) with
      | .close c => .ok (draft, c)
      | .element c =>
          let (key, c) ← atPlace (readString c)
          let (draft, c) ← readMemberInto key fs draft c
          readDraft fs fuel false draft c

/-- Fill what was not given; the first field that cannot do without is missing. -/
def complete : (fs : List Field) → Draft fs → Except Mismatch (Row fs)
  | [], _ => .ok ()
  | f :: fs, (slot, rest) =>
      match slot <|> f.codec.absent with
      | none => .error (.missingField f.name)
      | some value => (complete fs rest).map (value, ·)

/-! ## Lists -/

/-- The values of the fields from the `index`th on, as the elements of a list. -/
def readInOrder (expected : String) :
    (fs : List Field) → Nat → Cursor → Except Fault (Row fs × Cursor)
  | [], _, c => .ok ((), c)
  | f :: fs, index, c => do
      match ← atPlace (nextElement (index == 0) c) with
      | .close c => .error (.whole (.invalidLength index expected) c)
      | .element c =>
          let (value, c) ← atPlace (f.codec.read c)
          let (rest, c) ← readInOrder expected fs (index + 1) c
          .ok ((value, rest), c)

/-- Close a record, whether it could be read or not. -/
def closeRecord {α : Type} (close : Cursor → Cursor × Option Error) :
    Except Fault (α × Cursor) → Except Error (α × Cursor)
  | .ok result => closing close result
  | .error (.placed error) => .error error
  | .error (.whole mismatch c) => (close c).1.mismatch mismatch

/-! ## Both -/

/-- A record as errors name it. -/
def recordText (name : String) : String := "struct " ++ name

/-- What a list in place of a record should have been. -/
def recordLengthText (name : String) (count : Nat) : String :=
  recordText name ++ " with " ++ toString count ++ (if count = 1 then " element" else " elements")

def readRow (name : String) (fs : List Field) : Reader (Row fs) := fun c => do
  let c ← toValue c
  if c.peek = some (some '[') then
    closeRecord endList (readInOrder (recordLengthText name fs.length) fs 0 c.skip)
  else if c.peek = some (some '\x7b') then
    closeRecord endObject do
      let (draft, c) ← readDraft fs (c.rest.length + 1) true (Draft.empty fs) c.skip
      match complete fs draft with
      | .ok row => .ok (row, c)
      | .error mismatch => .error (.whole mismatch c)
  else refuse (recordText name) c

/-- The members of a record, each with its text, in the order of the fields. -/
def memberTexts : (fs : List Field) → Row fs → List (String × String)
  | [], _ => []
  | f :: fs, (value, rest) => (f.name, f.codec.write value) :: memberTexts fs rest

/-- The codec of a record, read in either form and written as an object. -/
def recordOf (name : String) (fs : List Field) : Codec (Row fs) where
  read := readRow name fs
  write row := objectText (memberTexts fs row)
  absent := none

end DurableJobs.Json
