import DurableJobs.Json.Value
import DurableJobs.Text.Blank
import DurableJobs.Text.Decimal
import DurableJobs.Text.Scan
import DurableJobs.Text.Split

/-!
# RON documents

Records in parentheses with their members by name, maps in braces with texts as keys, and lists. A record
may have a name in front, which does not count, and parentheses around values without names hold a list.
-/

set_option autoImplicit false

namespace DurableJobs.Config.Ron

open DurableJobs.Text (Scan)
open DurableJobs.Text.Scan

/-! ## Blanks -/

/-- What is left of a comment between marks; comments nest. -/
def skipBlock : Nat → Nat → Scan Unit
  | 0, _ => failure
  | fuel + 1, depth => do
      if ← accept "*/" then
        match depth with
        | 0 => pure ()
        | depth + 1 => skipBlock fuel depth
      else if ← accept "/*" then skipBlock fuel (depth + 1)
      else do
        let _ ← next
        skipBlock fuel depth

/-- Blanks and comments, as far as they go. Each round takes a comment. -/
def skip : Nat → Scan Unit
  | 0 => pure ()
  | fuel + 1 => do
      skipWhile Text.isBlank
      if ← accept "//" then
        skipWhile (· != '\n')
        skip fuel
      else if ← accept "/*" then
        skipBlock (← get).length 0
        skip fuel

/-! ## Texts -/

/-- A character by the digits of its code point, in braces. -/
def bracedPoint : Scan Char := do
  expect "\x7b"
  let digits ← takeWhile (· != '\x7d')
  expect "\x7d"
  let point ← found (Text.numberIn? 16 digits)
  require point.isValidChar
  return Char.ofNat point

def escape : Scan Char := do
  match ← next with
  | '\'' => return '\''
  | '"' => return '"'
  | '\\' => return '\\'
  | 'n' => return '\n'
  | 'r' => return '\r'
  | 't' => return '\t'
  | '0' => return '\x00'
  | 'x' => codePoint 2
  | 'u' => bracedPoint
  | _ => failure

/-- What is left of a text, to the quote that ends it. -/
def restOfText : Nat → List Char → Scan String
  | 0, _ => failure
  | fuel + 1, taken => do
      match ← next with
      | '"' => return String.ofList taken.reverse
      | '\\' => restOfText fuel ((← escape) :: taken)
      | c => restOfText fuel (c :: taken)

/-- A text without escapes, up to a quote with the marks that it began with. -/
def restOfRaw (close : String) : Nat → List Char → Scan String
  | 0, _ => failure
  | fuel + 1, taken => do
      if ← accept close then return String.ofList taken.reverse
      else restOfRaw close fuel ((← next) :: taken)

/-! ## Values -/

def isWordChar (c : Char) : Bool := c.isAlphanum || c == '_' || c == '.' || c == '+' || c == '-'

/-- A number by its whole text; underscores in it do not count. -/
def number? (cs : List Char) : Option Json.Number :=
  let cs := cs.filter (· != '_')
  let (negative, digits) := Text.cutSign cs
  let whole (n : Nat) : Option Json.Number :=
    (signed? 64 (if negative then -(n : Int) else n)).map .whole
  match digits with
  | '0' :: 'x' :: digits => (Text.numberIn? 16 digits).bind whole
  | '0' :: 'o' :: digits => (Text.numberIn? 8 digits).bind whole
  | '0' :: 'b' :: digits => (Text.numberIn? 2 digits).bind whole
  | digits =>
      match String.ofList digits with
      | "inf" => some (.fraction (.infinite negative))
      | "NaN" => some (.fraction .nan)
      | _ =>
          if digits.all Char.isDigit then (Text.numberIn? 10 digits).bind whole
          else if digits.head?.any fun c => c.isDigit || c == '.' then
            (Text.float? cs).map .fraction
          else none

/-- A name with a colon behind it, if that is what comes. -/
def memberName? (fuel : Nat) : Scan (Option String) := do
  let before ← get
  let cs ← takeWhile fun c => c.isAlphanum || c == '_'
  skip fuel
  if !cs.isEmpty && (← accept ":") then return some (String.ofList cs)
  else do
    set before
    return none

/-- What stands between parentheses: members by name, or values. -/
inductive Group where
  | members (entries : Keyed Json.Value)
  | values (items : List Json.Value)

def Group.document : Group → Json.Value
  | .members entries => .object entries
  | .values [] => .null
  | .values items => .array items.reverse

/-- Add a member; what has values has no members. -/
def Group.add (name : String) (v : Json.Value) : Group → Option Group
  | .members entries => some (.members (Keyed.put name v entries))
  | .values [] => some (.members [(name, v)])
  | .values _ => none

/-- Add a value; what has members has no values. -/
def Group.push (v : Json.Value) : Group → Option Group
  | .values items => some (.values (v :: items))
  | .members _ => none

/-- A value; groups nest no deeper than there are characters. -/
def value : Nat → Scan Json.Value
  | 0 => failure
  | depth + 1 => do
      let fuel := (← get).length + 1
      let group : Scan Json.Value := do
        let item (taken : Group) : Scan Group := do
          match ← memberName? fuel with
          | some name =>
              skip fuel
              let v ← value depth
              found (taken.add name v)
          | none =>
              let v ← value depth
              found (taken.push v)
        return (← itemsUntil (skip fuel) ")" item fuel (.values [])).document
      let raw (marks : String) : Scan Json.Value :=
        return .string (← restOfRaw ("\"" ++ marks) fuel [])
      if ← accept "\"" then return .string (← restOfText fuel [])
      else if ← accept "r\"" then raw ""
      else if ← accept "r#\"" then raw "#"
      else if ← accept "'" then
        let c ← next
        let c ← if c = '\\' then escape else pure c
        expect "'"
        return .string (String.singleton c)
      else if ← accept "(" then group
      else if ← accept "[" then
        let item (items : List Json.Value) : Scan (List Json.Value) := do
          return (← value depth) :: items
        return .array (← itemsUntil (skip fuel) "]" item fuel []).reverse
      else if ← accept "\x7b" then
        let member (members : Keyed Json.Value) : Scan (Keyed Json.Value) := do
          let name ← value depth
          skip fuel
          expect ":"
          skip fuel
          let v ← value depth
          match name with
          | .string name => return Keyed.put name v members
          | _ => failure
        return .object (← itemsUntil (skip fuel) "\x7d" member fuel [])
      else do
        let cs ← takeWhile isWordChar
        match String.ofList cs with
        | "true" => return .bool true
        | "false" => return .bool false
        | "None" => return .null
        | "Some" => do
            skip fuel
            expect "("
            skip fuel
            let v ← value depth
            skip fuel
            expect ")"
            return v
        | _ =>
            match number? cs with
            | some n => return .number n
            | none => do
                require (cs.head?.any fun c => c.isAlpha || c == '_')
                skip fuel
                if ← accept "(" then group else return .null

/-- The members of a document. -/
def parse? (text : String) : Option (Keyed Json.Value) := do
  let cs := text.toList
  let document : Scan Json.Value := do
    skip (cs.length + 1)
    let v ← value (cs.length + 1)
    skip (cs.length + 1)
    return v
  match ← whole document cs with
  | .object members => some members
  | _ => none

end DurableJobs.Config.Ron
