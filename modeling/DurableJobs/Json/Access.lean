import DurableJobs.Json.Value

/-!
# Looking into values

What a value is, if it is that, and the members of an object by key. A member that is null counts as
one that is not there.
-/

set_option autoImplicit false

namespace DurableJobs.Json.Value

def text? : Value → Option String
  | .string s => some s
  | _ => none

def int? : Value → Option Int
  | .number (.whole n) => some n
  | _ => none

def bool? : Value → Option Bool
  | .bool b => some b
  | _ => none

def isNull : Value → Bool
  | .null => true
  | _ => false

/-- The items of a list; nothing else has any. -/
def items : Value → List Value
  | .array items => items
  | _ => []

/-- The members of an object; nothing else has any. -/
def members : Value → List (String × Value)
  | .object members => members
  | _ => []

/-- The member under a key, or null. -/
def member (v : Value) (key : String) : Value := (v.get? key).getD .null

/-- The member under a key, unless it is null. -/
def given? (v : Value) (key : String) : Option Value := (v.get? key).filter fun m => !m.isNull

def textAt? (v : Value) (key : String) : Option String := (v.member key).text?

def intAt? (v : Value) (key : String) : Option Int := (v.member key).int?

def natAt? (v : Value) (key : String) : Option Nat := (v.intAt? key).map Int.toNat

def boolAt? (v : Value) (key : String) : Option Bool := (v.member key).bool?

def itemsAt (v : Value) (key : String) : List Value := (v.member key).items

/-- The members of a member that are texts. -/
def textsAt (v : Value) (key : String) : List (String × String) :=
  (v.member key).members.filterMap fun (name, text) => text.text?.map (name, ·)

/-- A value that may be absent, as null. -/
def ofOption {α : Type} (encode : α → Value) : Option α → Value
  | some a => encode a
  | none => .null

end DurableJobs.Json.Value
