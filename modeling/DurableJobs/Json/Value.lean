import DurableJobs.Numeric.Shortest
import DurableJobs.Text.Hex
import DurableJobs.Text.Keyed

/-!
# JSON values

The values a document can hold, and their text. An object keeps its members sorted by key and each key
once, so two objects with the same members are the same value, and the text of a value is canonical:
compact, members in key order, a fraction with the fewest digits that read back.
-/

set_option autoImplicit false

namespace DurableJobs.Json

open DurableJobs.Text (hexDigit)

/-- A number of a document: whole while it fits 64 bits, with or without a sign, else a fraction. -/
inductive Number where
  | whole (n : Int)
  | fraction (x : Binary64)
  deriving DecidableEq, Repr, Inhabited

inductive Value where
  | null
  | bool (b : Bool)
  | number (n : Number)
  | string (s : String)
  | array (items : List Value)
  | object (members : List (String × Value))
  deriving Repr, Inhabited

namespace Value

/-- An object from members in any order. -/
def ofMembers (members : List (String × Value)) : Value :=
  .object (Keyed.ofList members)

/-- The member of an object under a key. -/
def get? (key : String) : Value → Option Value
  | .object members => members.lookup key
  | _ => none

def int (n : Int) : Value := .number (.whole n)

def nat (n : Nat) : Value := .number (.whole n)

end Value

/-! ## Text -/

/-- Fractions: positional from `0.00001` to below `10^16`, a whole number with its `.0`, and two digits
of exponent at least. -/
def fractionLayout : Shortest.Layout := ⟨-5, 16, ".0", 2⟩

def Number.text : Number → String
  | .whole n => toString n
  | .fraction x => if x.isFinite then x.text fractionLayout else "null"

/-- One character of a string: quote, backslash and the controls below U+0020 are escaped. -/
def escapeChar (c : Char) : List Char :=
  if c = '"' then ['\\', '"']
  else if c = '\\' then ['\\', '\\']
  else if c = '\x08' then ['\\', 'b']
  else if c = '\x0c' then ['\\', 'f']
  else if c = '\n' then ['\\', 'n']
  else if c = '\r' then ['\\', 'r']
  else if c = '\t' then ['\\', 't']
  else if c.toNat < 32 then
    ['\\', 'u', '0', '0', hexDigit (c.toNat / 16), hexDigit (c.toNat % 16)]
  else [c]

/-- A string between its quotes. -/
def stringText (s : String) : String :=
  String.ofList ('"' :: (s.toList.flatMap escapeChar ++ ['"']))

/-- An object's text from the texts of its members, in the order given. -/
def objectText (members : List (String × String)) : String :=
  "\x7b" ++ ",".intercalate (members.map fun m => stringText m.1 ++ ":" ++ m.2) ++ "\x7d"

def arrayText (items : List String) : String := "[" ++ ",".intercalate items ++ "]"

/-- The compact text of a value. -/
def Value.text : Value → String
  | .null => "null"
  | .bool b => if b then "true" else "false"
  | .number n => n.text
  | .string s => stringText s
  | .array items => arrayText (items.attach.map fun ⟨item, _⟩ => item.text)
  | .object members =>
      objectText (members.attach.map fun ⟨member, _⟩ => (member.1, member.2.text))
termination_by value => sizeOf value
decreasing_by
  · rename_i h
    have := List.sizeOf_lt_of_mem h
    simp_wf
    omega
  · rename_i h
    have := List.sizeOf_lt_of_mem h
    simp_wf
    rcases member with ⟨k, v⟩
    simp at this ⊢
    omega

end DurableJobs.Json
