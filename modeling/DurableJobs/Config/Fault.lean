import DurableJobs.Numeric.Shortest
import DurableJobs.Text.Quoted

/-!
# What can be wrong with a configuration

A fault is found at a value and reported with the path to it. Whoever reads a member or an item puts its
step in front of the faults from inside, so a fault is made without a path and gains one on the way out.
-/

set_option autoImplicit false

namespace DurableJobs.Config

/-- What was found where something else was expected. -/
inductive Found where
  | unit
  | bool (b : Bool)
  /-- A whole number where no number can stand. -/
  | integer (n : Int)
  /-- A whole number out of the range of those that can. -/
  | signed (n : Int)
  | unsigned (n : Nat)
  | float (x : Binary64)
  | text (s : String)
  | sequence
  | map
  deriving DecidableEq, Repr

def Found.describe : Found → String
  | .unit => "unit value"
  | .bool b => "boolean `" ++ toString b ++ "`"
  | .integer n => "integer `" ++ toString n ++ "`"
  | .signed n => "64-bit integer `" ++ toString n ++ "`"
  | .unsigned n => "64-bit unsigned integer `" ++ toString n ++ "`"
  | .float x => "floating point `" ++ x.text Binary64.pointedLayout ++ "`"
  | .text s => "string " ++ Text.quote s
  | .sequence => "sequence"
  | .map => "map"

def mismatchText (found : Found) (expected : String) : String :=
  "invalid type: " ++ found.describe ++ ", expected " ++ expected

inductive Fault where
  /-- A value that cannot be taken for what is expected. Its origin is told where it is known. -/
  | mistyped (found : Found) (expected : String) (key origin : Option String)
  /-- A value of the wrong shape. -/
  | unfit (text : String) (key : Option String)
  /-- A member that has to be there. -/
  | missing (key : String)
  deriving DecidableEq, Repr

namespace Fault

/-- A name in front of a path: a dot between them, unless the path is empty or goes on with a
subscript. -/
def joinName (name : String) (key : Option String) : String :=
  let key := key.getD ""
  if key.isEmpty || key.startsWith "[" then name ++ key else name ++ "." ++ key

/-- Change the path of a fault. -/
def mapKey (change : Option String → String) : Fault → Fault
  | .mistyped found expected key origin => .mistyped found expected (some (change key)) origin
  | .unfit text key => .unfit text (some (change key))
  | .missing key => .missing (change (some key))

/-- The fault as seen from the table that has the value as a member. -/
def inMember (name : String) : Fault → Fault := mapKey (joinName name)

/-- The fault as seen from the list that has the value as an item. -/
def inItem (index : Nat) : Fault → Fault :=
  mapKey fun key => "[" ++ toString index ++ "]" ++ key.getD ""

def keyText : Option String → String
  | some key => " for key `" ++ key ++ "`"
  | none => ""

def originText : Option String → String
  | some origin => " in " ++ origin
  | none => ""

def message : Fault → String
  | .mistyped found expected key origin =>
      mismatchText found expected ++ keyText key ++ originText origin
  | .unfit text key => text ++ keyText key
  | .missing key => "missing configuration field " ++ Text.quote key

end Fault

end DurableJobs.Config
