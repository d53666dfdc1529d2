import DurableJobs.Config.Toml.Quoted
import DurableJobs.Config.Toml.Tree
import DurableJobs.Config.Toml.Word

/-!
# TOML documents

A document is a sequence of lines, each empty, a comment, a header or a key with its value. The value of
a key is a word, a text, a list or an inline table, and lists and inline tables may go over several
lines.
-/

set_option autoImplicit false

namespace DurableJobs.Config.Toml

open DurableJobs.Text (Scan)
open DurableJobs.Text.Scan

/-! ## Values -/

/-- A value; lists and inline tables nest no deeper than there are characters. -/
def value : Nat → Scan Json.Value
  | 0 => failure
  | depth + 1 => do
      let fuel := (← get).length + 1
      if ← accept "\"" then return .string (← quoted '"')
      else if ← accept "'" then return .string (← quoted '\'')
      else if ← accept "[" then
        let item (items : List Json.Value) : Scan (List Json.Value) := do
          return (← value depth) :: items
        return .array (← itemsUntil (skipLines fuel) "]" item fuel []).reverse
      else if ← accept "\x7b" then
        let member (entries : Entries) : Scan Entries := do
          let path ← key fuel
          expect "="
          skipBlanks
          let v ← value depth
          found (entries.set [] path v)
        return .object (documents (← itemsUntil (skipLines fuel) "\x7d" member fuel []))
      else word

/-! ## Lines -/

/-- What has been read: the tree, and the table that keys go into. -/
structure Progress where
  entries : Entries
  table : List String

/-- A header or a key with its value. -/
def statement (progress : Progress) : Scan Progress := do
  let fuel := (← get).length + 1
  if ← accept "[[" then
    let path ← key fuel
    expect "]]"
    return ⟨← found (progress.entries.openNext path), path⟩
  else if ← accept "[" then
    let path ← key fuel
    expect "]"
    return ⟨← found (progress.entries.openTable path), path⟩
  else do
    let path ← key fuel
    expect "="
    skipBlanks
    let v ← value fuel
    return { progress with entries := ← found (progress.entries.set progress.table path v) }

/-- The lines that are left. Each round ends at an end of line. -/
def statements : Nat → Progress → Scan Progress
  | 0, _ => failure
  | fuel + 1, progress => do
      skipLines (fuel + 1)
      if (← get).isEmpty then return progress
      let progress ← statement progress
      skipBlanks
      skipComment
      if (← get).isEmpty then return progress
      require (← acceptBreak)
      statements fuel progress

/-- The members of a document. A mark of the byte order may stand in front of it. -/
def parse? (text : String) : Option (Keyed Json.Value) :=
  let cs := text.toList
  let cs := if cs.head? = some '\ufeff' then cs.tail else cs
  (whole (statements (cs.length + 1) ⟨[], []⟩) cs).map fun progress => documents progress.entries

end DurableJobs.Config.Toml
