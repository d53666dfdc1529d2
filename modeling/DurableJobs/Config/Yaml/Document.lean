import DurableJobs.Config.Yaml.Flow
import DurableJobs.Text.Split

/-!
# YAML documents

A document in block style: lists and maps by indentation, and values in flow style on their lines. Blank
lines and comments go first, so that the rest is a list of lines, each with its indentation. Anchors,
tags and scalars in blocks of their own are not understood.
-/

set_option autoImplicit false

namespace DurableJobs.Config.Yaml

open DurableJobs.Text.Scan (whole)

structure Line where
  indent : Nat
  text : List Char
  deriving Repr

/-! ## Lines -/

/-- The quote that is open behind a character, which stands behind another that is no blank. -/
def quoteAfter (quote before : Option Char) (c : Char) : Option Char :=
  match quote with
  | some q => if c = q then none else quote
  | none =>
      let opens := (c == '"' || c == '\'') &&
        before.all fun d => [':', '-', ',', '[', '\x7b'].contains d
      if opens then some c else none

/-- A line up to its comment. -/
def withoutComment : (quote before : Option Char) → (afterBlank : Bool) → List Char → List Char
  | _, _, _, [] => []
  | quote, before, afterBlank, c :: cs =>
      if quote.isNone && afterBlank && c == '#' then []
      else
        c :: withoutComment (quoteAfter quote before c) (if isBlank c then before else some c)
          (isBlank c) cs

/-- A line that has something on it. Tabs do not indent. -/
def line? (cs : List Char) : Option (Option Line) :=
  let cs := if cs.getLast? = some '\r' then cs.dropLast else cs
  let indent := (cs.takeWhile (· == ' ')).length
  let text := trimmed (withoutComment none none true (cs.drop indent))
  if text.isEmpty then some none
  else if (cs.drop indent).head? = some '\t' then none
  else some (some ⟨indent, text⟩)

def lines? (text : List Char) : Option (List Line) :=
  ((Text.splitOn '\n' text).mapM line?).map fun lines => lines.filterMap id

/-! ## Blocks -/

/-- A text up to its first colon with a blank or nothing behind it, and what stands behind the colon. -/
def cutColon? (taken : List Char) : List Char → Option (List Char × List Char)
  | [] => none
  | c :: cs =>
      if c = ':' ∧ cs.head?.all isBlank then some (taken.reverse, cs) else cutColon? (c :: taken) cs

/-- The key at the front of a line, and what stands behind its colon. -/
def cutKey? (text : List Char) : Option (String × List Char) :=
  match quoted? text with
  | some (some key, rest) =>
      match rest.dropWhile isBlank with
      | ':' :: value => if value.head?.all isBlank then some (key, value) else none
      | _ => none
  | _ =>
      if text.head?.all isIndicator then none
      else do
        let (key, value) ← cutColon? [] text
        let key ← keyText (← plainScalar (trimmed key))
        some (key, value)

/-- What stands behind the dash of a list's item: how far in, and the text. -/
def cutDash? : List Char → Option (Nat × List Char)
  | ['-'] => some (1, [])
  | '-' :: ' ' :: cs =>
      let blanks := (cs.takeWhile (· == ' ')).length
      some (2 + blanks, cs.drop blanks)
  | _ => none

/-- A value on its line, with the lines that go on with it if it is plain. -/
def inlineValue (text : List Char) (more : List Line) : Option Json.Value :=
  match text.head? with
  | none => some .null
  | some c =>
      if ['[', '\x7b', '"', '\''].contains c then
        if more.isEmpty then
          whole (flowValue (text.length + 1)) text
        else none
      else if isIndicator c then none
      else
        let joined := more.foldl (fun joined line => joined ++ ' ' :: line.text) text
        if (cutKey? joined).isSome then none else plainScalar joined

/-- The lines further in than `indent` at the front, and the rest. -/
def further (indent : Nat) (lines : List Line) : List Line × List Line :=
  (lines.takeWhile (indent < ·.indent), lines.dropWhile (indent < ·.indent))

/-- The lines of a member's value: those further in, or a list that is as far in as the key. -/
def belowKey (indent : Nat) (lines : List Line) : List Line × List Line :=
  match lines with
  | line :: _ =>
      if line.indent = indent ∧ (cutDash? line.text).isSome then
        let inside (line : Line) : Bool :=
          indent < line.indent || (line.indent == indent && (cutDash? line.text).isSome)
        (lines.takeWhile inside, lines.dropWhile inside)
      else further indent lines
  | [] => ([], [])

/-- A block: the value of lines of which the first sets the indentation. Every step of the recursion
takes a line, or the dash or the key of one. -/
def block : Nat → List Line → Option Json.Value
  | 0, _ => none
  | _ + 1, [] => some .null
  | fuel + 1, first :: rest =>
      if (cutDash? first.text).isSome then (items fuel first.indent (first :: rest)).map .array
      else if (cutKey? first.text).isSome then
        (members fuel first.indent (first :: rest) []).map .object
      else inlineValue first.text rest
where
  /-- The items of a list. -/
  items : Nat → Nat → List Line → Option (List Json.Value)
    | 0, _, _ => none
    | _ + 1, _, [] => some []
    | fuel + 1, indent, line :: rest => do
        let (offset, text) ← if line.indent = indent then cutDash? line.text else none
        let (inside, rest) := further indent rest
        let v ← block fuel (if text.isEmpty then inside else ⟨indent + offset, text⟩ :: inside)
        return v :: (← items fuel indent rest)
  /-- The members of a map. -/
  members : Nat → Nat → List Line → Keyed Json.Value → Option (Keyed Json.Value)
    | 0, _, _, _ => none
    | _ + 1, _, [], taken => some taken
    | fuel + 1, indent, line :: rest, taken => do
        let (key, text) ← if line.indent = indent then cutKey? line.text else none
        let text := trimmed text
        let (inside, rest) := if text.isEmpty then belowKey indent rest else further indent rest
        let v ← if text.isEmpty then block fuel inside else inlineValue text inside
        members fuel indent rest (← addMember key v taken)

/-! ## Documents -/

def isMark (mark : List Char) (line : Line) : Bool := line.indent == 0 && line.text == mark

/-- The members of the one document in a text. A text without any has no members. -/
def parse? (text : String) : Option (Keyed Json.Value) := do
  let cs := text.toList
  let lines ← lines? cs
  let marked := lines.head?.any (isMark ['-', '-', '-'])
  let lines := if marked then lines.drop 1 else lines
  if lines.isEmpty && !marked then some []
  else
    match ← block (2 * cs.length + 2) lines with
    | .object members => some members
    | _ => none

end DurableJobs.Config.Yaml
