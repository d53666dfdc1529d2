import DurableJobs.Json.Value
import DurableJobs.Text.Blank
import DurableJobs.Text.Scan

/-!
# INI documents

Keys with text values, in sections. A key ends at an equals sign or a colon and a value at the end of its
line; both lose the blanks around them. A value may begin with a quoted part. Backslashes escape
everywhere. A comment stands at the very beginning of a line.
-/

set_option autoImplicit false

namespace DurableJobs.Config.Ini

open DurableJobs.Text (Scan isBlank)
open DurableJobs.Text.Scan

/-- A text without the blanks around it. -/
def trimmed (cs : List Char) : String :=
  String.ofList ((cs.dropWhile isBlank).reverse.dropWhile isBlank).reverse

/-- What a backslash and the character behind it stand for; the end of a line stands for nothing. -/
def escape : Scan (Option Char) := do
  match ← next with
  | '0' => return some '\x00'
  | 'a' => return some '\x07'
  | 'b' => return some '\x08'
  | 't' => return some '\t'
  | 'r' => return some '\r'
  | 'n' => return some '\n'
  | '\n' => return none
  | 'x' => return some (← codePoint 4)
  | c => return some c

/-- Characters, with escapes, up to one of a class, which stays. Only where `mayEnd` holds may the
document end before. -/
def takeUntil (stop : Char → Bool) (mayEnd : Bool) : Nat → List Char → Scan (List Char)
  | 0, _ => failure
  | fuel + 1, taken => do
      match ← front? with
      | none =>
          require mayEnd
          return taken.reverse
      | some c =>
          if stop c then return taken.reverse
          else do
            let _ ← next
            if c = '\\' then takeUntil stop mayEnd fuel ((← escape).toList ++ taken)
            else takeUntil stop mayEnd fuel (c :: taken)

def isLineEnd (c : Char) : Bool := c == '\n' || c == '\r'

/-- The rest of a line. -/
def line (fuel : Nat) : Scan (List Char) := takeUntil isLineEnd true fuel []

/-- A value behind the mark that ended its key. -/
def value (fuel : Nat) : Scan String := do
  skipWhile fun c => isBlank c && !isLineEnd c
  let quoted (quote : Char) : Scan String := do
    let inside ← takeUntil (· == quote) false fuel []
    let _ ← next
    let rest ← line fuel
    return String.ofList inside ++ trimmed rest
  if ← accept "\"" then quoted '"'
  else if ← accept "'" then quoted '\''
  else return trimmed (← line fuel)

/-! ## Documents -/

/-- What has been read: the values before the first section, the sections, and the one that is open. -/
structure Progress where
  values : Keyed String
  sections : Keyed (Keyed String)
  current : Option String

namespace Progress

/-- Open a section. One of the same name before it is forgotten. -/
def openSection (progress : Progress) (name : String) : Progress :=
  { progress with sections := Keyed.put name [] progress.sections, current := some name }

def setValue (progress : Progress) (key value : String) : Progress :=
  match progress.current with
  | none => { progress with values := Keyed.put key value progress.values }
  | some name =>
      let inside := (progress.sections.lookup name).getD []
      { progress with sections := Keyed.put name (Keyed.put key value inside) progress.sections }

/-- All members; a section outranks a value of its name. -/
def members (progress : Progress) : Keyed Json.Value :=
  let text (entry : String × String) : String × Json.Value := (entry.1, .string entry.2)
  progress.sections.foldl
    (fun members (name, inside) => Keyed.put name (.object (inside.map text)) members)
    (progress.values.map text)

end Progress

/-- The statements that are left. Each takes at least one character; `atStart` tells whether a line has
just begun. -/
def statements : Nat → Bool → Progress → Scan Progress
  | 0, _, _ => failure
  | fuel + 1, atStart, progress => do
      let blanks ← takeWhile isBlank
      let atStart := if blanks.isEmpty then atStart else blanks.getLast? == some '\n'
      match ← front? with
      | none => return progress
      | some c =>
          if c = ';' ∨ c = '#' then do
            require atStart
            skipWhile (· != '\n')
            statements fuel atStart progress
          else if c = '[' then do
            let _ ← next
            let name ← takeUntil (· == ']') false (fuel + 1) []
            let _ ← next
            statements fuel false (progress.openSection (trimmed name))
          else do
            let key ← takeUntil (fun c => c == '=' || c == ':') false (fuel + 1) []
            require !(trimmed key).isEmpty
            let _ ← next
            let v ← value (fuel + 1)
            statements fuel false (progress.setValue (trimmed key) v)

def parse? (text : String) : Option (Keyed Json.Value) :=
  let cs := text.toList
  (whole (statements (cs.length + 1) true ⟨[], [], none⟩) cs).map Progress.members

end DurableJobs.Config.Ini
