import DurableJobs.Config.Fault
import DurableJobs.Config.Value
import DurableJobs.Text.Decimal
import DurableJobs.Text.Lower

/-!
# Reading configuration values

A value of a known type is read from whatever stands for it: switches from words and numbers, whole
numbers from fractions (rounded) and digits, texts from anything without parts. A `Record` reads
several members at once, by name from a table or in order from a list. Where a table has both a member
that cannot be read and none at all for another, the first is reported: it is what is there.
-/

set_option autoImplicit false

namespace DurableJobs.Config

abbrev Reading (α : Type) := Value → Except Fault α

/-- What stands in the place of something else. -/
def Value.found : Value → Found
  | .scalar _ .null => .unit
  | .scalar _ (.bool b) => .bool b
  | .scalar _ (.int n) => .integer n
  | .scalar _ (.float x) => .float x
  | .scalar _ (.text s) => .text s
  | .list .. => .sequence
  | .table .. => .map

/-- Refuse a value, telling where it is from. -/
def refuse {α : Type} (expected : String) (value : Value) : Except Fault α :=
  .error (.mistyped value.found expected none value.origin?)

/-- Refuse a value that is not of the shape expected. -/
def refuseShape {α : Type} (expected : String) (value : Value) : Except Fault α :=
  .error (.unfit (mismatchText value.found expected) none)

/-! ## Words -/

def truthWords : List String := ["true", "on", "yes"]

def falsehoodWords : List String := ["false", "off", "no"]

/-- A word or digits, as a number. -/
def numberOfWord? (parse : List Char → Option Int) (s : String) : Option Int :=
  let word := Text.lowerCase s
  if truthWords.contains word then some 1
  else if falsehoodWords.contains word then some 0
  else parse s.toList

/-! ## Values without parts -/

def boolean : Reading Bool
  | .scalar _ (.bool b) => .ok b
  | .scalar _ (.int n) => .ok (n != 0)
  | .scalar _ (.float x) => .ok !x.isZero
  | .scalar origin (.text s) =>
      let word := Text.lowerCase s
      if ("1" :: truthWords).contains word then .ok true
      else if ("0" :: falsehoodWords).contains word then .ok false
      else refuse "a boolean" (.scalar origin (.text word))
  | value => refuse "a boolean" value

/-- The whole number between two bounds that is nearest to a number; what is no number counts as zero. -/
def nearestWithin (low high : Int) (x : Binary64) : Int :=
  match x with
  | .nan => 0
  | .infinite negative => if negative then low else high
  | x => max low (min high ((x.round?).getD 0))

def integer : Reading Int
  | .scalar _ (.bool b) => .ok (if b then 1 else 0)
  | .scalar _ (.int n) => .ok n
  | .scalar _ (.float x) => .ok (nearestWithin (leastSigned 64) (greatestSigned 64) x)
  | .scalar origin (.text s) =>
      match numberOfWord? Text.int64? s with
      | some n => .ok n
      | none => refuse "an integer" (.scalar origin (.text s))
  | value => refuse "an integer" value

/-- A whole number that is not negative. -/
def natural : Reading Nat
  | .scalar _ (.bool b) => .ok (if b then 1 else 0)
  | .scalar origin (.int n) =>
      if 0 ≤ n then .ok n.toNat
      else .error (.mistyped (.signed n) "an unsigned 64 bit or less integer" none origin)
  | .scalar _ (.float x) => .ok (nearestWithin 0 (greatestUnsigned 64) x).toNat
  | .scalar origin (.text s) =>
      match numberOfWord? (fun cs => (Text.nat64? cs).map Int.ofNat) s with
      | some n => .ok n.toNat
      | none => refuse "an integer" (.scalar origin (.text s))
  | value => refuse "an integer" value

def int64 : Reading Int64 := fun value => (integer value).map Int64.ofInt

def uint64 : Reading UInt64 := fun value => (natural value).map UInt64.ofNat

def int32 : Reading Int32 := fun value => do
  let n ← integer value
  if fitsSigned 32 n then .ok (Int32.ofInt n)
  else .error (.mistyped (.signed n) "an signed 32 bit integer" none none)

def uint32 : Reading UInt32 := fun value => do
  let n ← natural value
  if n ≤ greatestUnsigned 32 then .ok (UInt32.ofNat n)
  else .error (.mistyped (.unsigned n) "an unsigned 32 bit integer" none none)

def float : Reading Binary64
  | .scalar _ (.bool b) => .ok (Binary64.ofNat (if b then 1 else 0))
  | .scalar _ (.int n) => .ok (Binary64.ofInt n)
  | .scalar _ (.float x) => .ok x
  | .scalar origin (.text s) =>
      match numberOfWord? (fun _ => none) s, Text.float? s.toList with
      | some n, _ => .ok (Binary64.ofInt n)
      | none, some x => .ok x
      | none, none => refuse "a floating point" (.scalar origin (.text s))
  | value => refuse "a floating point" value

def text : Reading String
  | .scalar _ (.bool b) => .ok (toString b)
  | .scalar _ (.int n) => .ok (toString n)
  | .scalar _ (.float x) => .ok (x.text Binary64.plainLayout)
  | .scalar _ (.text s) => .ok s
  | value => refuse "a string" value

/-- A value, or null in its place. -/
def optional {α : Type} (reading : Reading α) : Reading (Option α)
  | .scalar _ .null => .ok none
  | value => (reading value).map some

/-- A choice by its name, or by the only key of a table. -/
def choice {α : Type} (typeName : String) (ofName? : String → Option α) : Reading α := fun value =>
  let choose (name : String) : Except Fault α :=
    match ofName? name with
    | some a => .ok a
    | none =>
        .error (.unfit ("enum " ++ typeName ++ " does not have variant constructor " ++ name) none)
  match value with
  | .scalar _ (.text name) => choose name
  | .table _ [(name, _)] => choose name
  | _ =>
      .error (.unfit ("value of enum " ++ typeName ++
        " should be represented by either string or table with exactly one key") none)

/-- A table with any keys. -/
def mapOf {α : Type} (reading : Reading α) : Reading (Keyed α)
  | .table _ members => members.mapM fun (name, value) =>
      ((reading value).mapError (Fault.inMember name)).map (name, ·)
  | value => refuseShape "a map" value

/-! ## Records -/

/-- How to read several members together. -/
structure Record (α : Type) where
  /-- How many members there are. -/
  size : Nat
  /-- From a table: the first member that cannot be read, or else the first that is missing. -/
  ofTable : Keyed Value → Except Fault (Except Fault α)
  /-- From a list, of which so many items are used up; it may be too short. -/
  ofList : (tooShort : Nat → Fault) → Nat → List Value → Except Fault (α × List Value)

namespace Record

instance : Functor Record where
  map f record :=
    { size := record.size
      ofTable := fun members => (record.ofTable members).map (·.map f)
      ofList := fun tooShort used items =>
        (record.ofList tooShort used items).map fun (a, rest) => (f a, rest) }

instance : Seq Record where
  seq first second :=
    let second := second ()
    { size := first.size + second.size
      ofTable := fun members => do
        let f ← first.ofTable members
        let a ← second.ofTable members
        return do return (← f) (← a)
      ofList := fun tooShort used items => do
        let (f, items) ← first.ofList tooShort used items
        let (a, items) ← second.ofList tooShort (used + first.size) items
        return (f a, items) }

/-- One member. A table may do without it if something is `absent` in its place, a list if something is
`beyond` its end. -/
def single {α : Type} (name : String) (reading : Reading α) (absent beyond : Option α) : Record α where
  size := 1
  ofTable members :=
    match members.lookup name, absent with
    | some value, _ => ((reading value).mapError (Fault.inMember name)).map .ok
    | none, some a => .ok (.ok a)
    | none, none => .ok (.error (.missing name))
  ofList tooShort used
    | value :: items => ((reading value).mapError (Fault.inItem used)).map (·, items)
    | [] =>
        match beyond with
        | some a => .ok (a, [])
        | none => .error (tooShort used)

def member {α : Type} (name : String) (reading : Reading α) : Record α := single name reading none none

/-- A member that a table may leave out. -/
def optionalMember {α : Type} (name : String) (reading : Reading α) : Record (Option α) :=
  single name (optional reading) (some none) none

/-- A member with a value of its own where there is none. -/
def memberOr {α : Type} (name : String) (reading : Reading α) (default : α) : Record α :=
  single name reading (some default) (some default)

/-- Read a record by its name. Items of a list beyond the members of the record are passed over. -/
def read {α : Type} (typeName : String) (record : Record α) : Reading α
  | .table _ members => do (← record.ofTable members)
  | .list _ items =>
      let expected := "struct " ++ typeName ++ " with " ++ toString record.size ++
        (if record.size = 1 then " element" else " elements")
      let tooShort (used : Nat) : Fault :=
        .unfit ("invalid length " ++ toString used ++ ", expected " ++ expected) none
      (record.ofList tooShort 0 items).map (·.1)
  | value => refuseShape ("struct " ++ typeName) value

end Record

end DurableJobs.Config
