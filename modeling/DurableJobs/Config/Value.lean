import DurableJobs.Json.Value
import DurableJobs.Numeric.Width
import DurableJobs.Text.Decimal

/-!
# Configuration values

A configuration is laid together from layers, and an error in it names the layer that the value came
from, so a `Value` carries its origin at every node. A document of any format is first a plain tree
(`Json.Value`); `Value.ofDocument` marks the tree with its origin and turns whole numbers that 64 bits
with a sign cannot hold into fractions.

Laying a layer over another (`Value.overlay`) goes into tables and nothing else: where both sides hold
a table the members are laid over each other, and anywhere else the upper side stays. The table that
results keeps the origin of the lower one, so a table that began empty comes from nowhere in
particular.
-/

set_option autoImplicit false

namespace DurableJobs.Config

/-- A value without parts. -/
inductive Scalar where
  | null
  | bool (b : Bool)
  | int (n : Int)
  | float (x : Binary64)
  | text (s : String)
  deriving DecidableEq, Repr, Inhabited

inductive Value where
  | scalar (origin : Option String) (s : Scalar)
  | list (origin : Option String) (items : List Value)
  | table (origin : Option String) (members : List (String × Value))
  deriving Repr, Inhabited

namespace Value

def null : Value := .scalar none .null

/-- The members of a table; nothing else has any. -/
def members : Value → Keyed Value
  | .table _ members => members
  | _ => []

/-- The items of a list; nothing else has any. -/
def items : Value → List Value
  | .list _ items => items
  | _ => []

def origin? : Value → Option String
  | .scalar origin _ => origin
  | .list origin _ => origin
  | .table origin _ => origin

/-- The origin a table keeps when members are put into it; whatever is no table has none to keep. -/
def tableOrigin? : Value → Option String
  | .table origin _ => origin
  | _ => none

/-- The same for a list and its items. -/
def listOrigin? : Value → Option String
  | .list origin _ => origin
  | _ => none

/-! ## Documents -/

def scalarOfNumber : Json.Number → Scalar
  | .whole n =>
      match signed? 64 n with
      | some n => .int n
      | none => .float (Binary64.ofInt n)
  | .fraction x => .float x

/-- A document with every node marked as coming from `origin`. -/
def ofDocument (origin : String) : Json.Value → Value
  | .null => .scalar (some origin) .null
  | .bool b => .scalar (some origin) (.bool b)
  | .number n => .scalar (some origin) (scalarOfNumber n)
  | .string s => .scalar (some origin) (.text s)
  | .array items => .list (some origin) (items.attach.map fun ⟨item, _⟩ => ofDocument origin item)
  | .object members =>
      .table (some origin)
        (members.attach.map fun ⟨member, _⟩ => (member.1, ofDocument origin member.2))
termination_by document => sizeOf document
decreasing_by
  · rename_i h
    have := List.sizeOf_lt_of_mem h
    simp_wf
    omega
  · rename_i h
    have := List.sizeOf_lt_of_mem h
    simp_wf
    rcases member with ⟨k, v⟩
    simp at this ⊢
    omega

/-! ## Layers -/

/-- Lay a value over another. -/
def overlay (upper lower : Value) : Value :=
  match upper with
  | .table _ members =>
      .table lower.tableOrigin? (members.attach.foldl (fun laid ⟨member, _⟩ =>
        Keyed.put member.1 (overlay member.2 ((laid.lookup member.1).getD null)) laid) lower.members)
  | upper => upper
termination_by sizeOf upper
decreasing_by
  rename_i h
  have := List.sizeOf_lt_of_mem h
  simp_wf
  rcases member with ⟨k, v⟩
  simp at this ⊢
  omega

end Value

end DurableJobs.Config
