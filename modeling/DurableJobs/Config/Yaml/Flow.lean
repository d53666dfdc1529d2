import DurableJobs.Config.Yaml.Scalar

/-!
# Flow style in YAML

Values that stand on one line: scalars, and lists and maps in brackets. A plain scalar ends where a
bracket, a comma or a colon with a blank behind it would go on with what is around it.
-/

set_option autoImplicit false

namespace DurableJobs.Config.Yaml

open DurableJobs.Text (Scan)
open DurableJobs.Text.Scan

def skipBlanks : Scan Unit := skipWhile isBlank

/-- Characters that no plain scalar begins with. -/
def isIndicator (c : Char) : Bool :=
  ['&', '*', '!', '|', '>', '%', '@', '\x60', '[', ']', '\x7b', '\x7d', ',', '#', '"', '\''].contains c

def isFlowEnd (c : Char) : Bool := [',', '[', ']', '\x7b', '\x7d'].contains c

/-- The characters of a plain scalar inside brackets. -/
def plainCharacters : Nat → List Char → Scan (List Char)
  | 0, taken => return taken.reverse
  | fuel + 1, taken => do
      match ← get with
      | [] => return taken.reverse
      | c :: cs =>
          let endsHere := isFlowEnd c ||
            (c == ':' && cs.head?.all fun d => isBlank d || isFlowEnd d)
          if endsHere then return taken.reverse
          else do
            set cs
            plainCharacters fuel (c :: taken)

/-- A plain scalar inside brackets. -/
def flowPlain : Scan (List Char) := do
  let cs ← plainCharacters (← get).length []
  require (cs.head?.all (!isIndicator ·))
  return trimmed cs

/-- The text of a scalar that is a key. -/
def keyText : Json.Value → Option String
  | .string s => some s
  | .number n => some n.text
  | .bool b => some (toString b)
  | _ => none

/-- Add a member to a map under a key it does not have. -/
def addMember (key : String) (v : Json.Value) (members : Keyed Json.Value) :
    Option (Keyed Json.Value) :=
  if (members.lookup key).isSome then none else some (Keyed.put key v members)

/-- A scalar inside brackets. -/
def flowScalar : Scan Json.Value := do
  match ← quoted? with
  | some s => return .string s
  | none => found (plainScalar (← flowPlain))

/-- A value in flow style. -/
def flowValue : Nat → Scan Json.Value
  | 0 => failure
  | depth + 1 => do
      let fuel := (← get).length + 1
      skipBlanks
      if ← accept "[" then
        let item (items : List Json.Value) : Scan (List Json.Value) := do
          return (← flowValue depth) :: items
        return .array (← itemsUntil skipBlanks "]" item fuel []).reverse
      else if ← accept "\x7b" then
        let member (members : Keyed Json.Value) : Scan (Keyed Json.Value) := do
          let key ← found (keyText (← flowScalar))
          skipBlanks
          let v ← if ← accept ":" then flowValue depth else pure .null
          found (addMember key v members)
        return .object (← itemsUntil skipBlanks "\x7d" member fuel [])
      else flowScalar

end DurableJobs.Config.Yaml
