import DurableJobs.Json.Error

/-!
# Choices

A choice among names that carry nothing is written as the name itself, or as an object whose only key
is the name and whose value is null.
-/

set_option autoImplicit false

namespace DurableJobs.Json

/-- What stands in a value, as an error tells it. -/
def Value.found : Value → Found
  | .null => .null
  | .bool b => .boolean b
  | .number n => .number n
  | .string s => .string s
  | .array _ => .sequence
  | .object _ => .map

/-- Choose by name. -/
def choose {α : Type} (choices : List (String × α)) (name : String) : Except Mismatch α :=
  match choices.lookup name with
  | some choice => .ok choice
  | none => .error (.unknownVariant name (choices.map (·.1)))

/-- The choice a value stands for. -/
def chooseValue {α : Type} (choices : List (String × α)) : Value → Except Mismatch α
  | .string name => choose choices name
  | .object [(name, value)] => do
      let choice ← choose choices name
      match value with
      | .null => .ok choice
      | value => .error (.invalidType value.found "unit")
  | .object _ => .error (.invalidValue .map "map with a single key")
  | value => .error (.invalidType value.found "string or map")

end DurableJobs.Json
