import DurableJobs.Text.Digits

/-!
# Reading a text from the front

A scan takes what it needs from the front of a text and leaves the rest, or fails. It is used for
formats of which only the fact of a failure is reported and not its place.
-/

set_option autoImplicit false

namespace DurableJobs.Text

abbrev Scan (α : Type) := StateT (List Char) Option α

namespace Scan

/-- Go on only if a condition holds. -/
def require (condition : Bool) : Scan Unit := if condition then pure () else failure

/-- The next character, which stays. -/
def front? : Scan (Option Char) := do return (← get).head?

/-- Take the next character. -/
def next : Scan Char := do
  match ← get with
  | [] => failure
  | c :: cs =>
      set cs
      return c

/-- Take characters while they are of a class. -/
def takeWhile (keep : Char → Bool) : Scan (List Char) := do
  let cs ← get
  set (cs.dropWhile keep)
  return cs.takeWhile keep

def skipWhile (keep : Char → Bool) : Scan Unit := modify (·.dropWhile keep)

/-- Take a text if it stands at the front, and tell whether it did. -/
def accept (text : String) : Scan Bool := do
  let cs ← get
  if text.toList.isPrefixOf cs then
    set (cs.drop text.length)
    return true
  else return false

/-- Take a text that has to stand at the front. -/
def expect (text : String) : Scan Unit := do require (← accept text)

/-- What has to be there. -/
def found {α : Type} : Option α → Scan α
  | some a => pure a
  | none => failure

/-- A character by so many hexadecimal digits of its code point. -/
def codePoint (width : Nat) : Scan Char := do
  let cs ← get
  set (cs.drop width)
  require (width ≤ cs.length)
  let point ← found (numberIn? 16 (cs.take width))
  require point.isValidChar
  return Char.ofNat point

/-- Items up to a closing bracket, parted by commas, with `skip` around each. A comma may stand behind
the last. Each item takes at least one character. -/
def itemsUntil {σ : Type} (skip : Scan Unit) (close : String) (item : σ → Scan σ) : Nat → σ → Scan σ
  | 0, _ => failure
  | fuel + 1, taken => do
      skip
      if ← accept close then return taken
      let taken ← item taken
      skip
      if ← accept "," then itemsUntil skip close item fuel taken
      else do
        expect close
        return taken

/-- Run a scan over a whole text. -/
def whole {α : Type} (scan : Scan α) (text : List Char) : Option α :=
  match scan text with
  | some (a, []) => some a
  | _ => none

end Scan

end DurableJobs.Text
