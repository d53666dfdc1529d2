import DurableJobs.Config.Value
import DurableJobs.Text.Split

/-!
# Key paths

The keys at the top of a layer may be paths: names joined by dots, with subscripts into lists. Setting a
value at a path makes tables and lists on the way where there are none. A key that is no path stands
for itself.
-/

set_option autoImplicit false

namespace DurableJobs.Config

/-- A step from a value into it. A negative subscript counts from the end of the list. -/
inductive Step where
  | member (name : String)
  | subscript (index : Int)
  deriving DecidableEq, Repr

namespace KeyPath

/-! ## Reading -/

def isNameChar (c : Char) : Bool := c.isAlphanum || c == '_' || c == '-'

def name? (cs : List Char) : Option String :=
  if !cs.isEmpty && cs.all isNameChar then some (String.ofList cs) else none

/-- The number between the brackets of a subscript, with a minus sign or without a sign. -/
def subscript? (cs : List Char) : Option Int := if cs.head? = some '+' then none else Text.int64? cs

/-- The subscripts behind a name, each in brackets. -/
def subscripts? : List (List Char) → Option (List Step)
  | [] => some []
  | part :: parts => do
      let inside ← if part.getLast? = some ']' then some part.dropLast else none
      return .subscript (← subscript? inside) :: (← subscripts? parts)

/-- One part between dots: a name and the subscripts behind it. -/
def part? (cs : List Char) : Option (List Step) :=
  match Text.splitOn '[' cs with
  | [] => none
  | name :: subscripts => do return .member (← name? name) :: (← subscripts? subscripts)

/-- The steps of a path. -/
def ofKey? (key : String) : Option (List Step) :=
  ((Text.splitOn '.' key.toList).mapM part?).map List.flatten

/-- The steps of a key, one to the member of that very name if it is no path. -/
def ofKey (key : String) : List Step := (ofKey? key).getD [.member key]

end KeyPath

namespace Value

/-! ## Setting -/

/-- Where a subscript points in a list of a length, and how many items have to be put in front of the
list first. -/
def place (index : Int) (length : Nat) : Nat × Nat :=
  if 0 ≤ index then (index.toNat, 0)
  else if index.natAbs ≤ length then (length - index.natAbs, 0)
  else (0, index.natAbs - length)

/-- Change the item a subscript points to; places that are missing are filled with nulls. -/
def changeItem (index : Int) (change : Value → Value) (items : List Value) : List Value :=
  let (at_, front) := place index items.length
  let items := List.replicate front null ++ items
  let items := items ++ List.replicate (at_ + 1 - items.length) null
  items.modify at_ change

/-- Change what stands at the end of a path. A value on the way that is no table, or no list where the
path has a subscript, gives way to an empty one. -/
def changeAt (change : Value → Value) : List Step → Value → Value
  | [], value => change value
  | .member name :: steps, value =>
      let member := (value.members.lookup name).getD null
      .table value.tableOrigin? (Keyed.put name (changeAt change steps member) value.members)
  | .subscript index :: steps, value =>
      .list value.listOrigin? (changeItem index (changeAt change steps) value.items)

/-- Lay a value over what stands at the end of a path. -/
def setAt (base : Value) (steps : List Step) (value : Value) : Value :=
  changeAt value.overlay steps base

/-- Lay a layer, given by its top keys, over a configuration. -/
def addLayer (base : Value) (layer : Keyed Value) : Value :=
  layer.foldl (fun base (key, value) => base.setAt (KeyPath.ofKey key) value) base

end Value

end DurableJobs.Config
