import DurableJobs.Json.Value
import DurableJobs.Text.Blank
import DurableJobs.Text.Decimal
import DurableJobs.Text.Scan

/-!
# JSON5 documents

JSON as it is written by hand: with comments, keys without quotes, single quotes, a comma behind the last
item, and numbers with a sign, in hexadecimal, with a bare point, without end or none at all.
-/

set_option autoImplicit false

namespace DurableJobs.Config.Json5

open DurableJobs.Text (Scan)
open DurableJobs.Text.Scan

def isSpace (c : Char) : Bool := Text.isBlank c || c == '\ufeff'

/-- Blanks and comments, as far as they go. Each round takes a comment. -/
def skip : Nat → Scan Unit
  | 0 => pure ()
  | fuel + 1 => do
      skipWhile isSpace
      if ← accept "//" then
        skipWhile fun c => c != '\n' && c != '\r' && c != '\u2028' && c != '\u2029'
        skip fuel
      else if ← accept "/*" then
        skipBlock (← get).length
        skip fuel
where
  /-- What is left of a comment between marks, which has to end. -/
  skipBlock : Nat → Scan Unit
    | 0 => failure
    | fuel + 1 => do
        if ← accept "*/" then pure ()
        else do
          let _ ← next
          skipBlock fuel

/-! ## Texts -/

/-- The second half of a character that is written in two. -/
def lowHalf : Scan Nat := do
  expect "\\u"
  let cs ← get
  set (cs.drop 4)
  let low ← found (Text.numberIn? 16 (cs.take 4))
  require (0xDC00 ≤ low && low < 0xE000)
  return low

/-- A character by four digits, or by four and four. -/
def unit : Scan Char := do
  let cs ← get
  set (cs.drop 4)
  require (4 ≤ cs.length)
  let high ← found (Text.numberIn? 16 (cs.take 4))
  if 0xD800 ≤ high && high < 0xDC00 then
    return Char.ofNat (0x10000 + (high - 0xD800) * 0x400 + ((← lowHalf) - 0xDC00))
  else do
    require high.isValidChar
    return Char.ofNat high

/-- What a backslash and the character behind it stand for; the end of a line stands for nothing. -/
def escape : Scan (Option Char) := do
  match ← next with
  | 'b' => return some '\x08'
  | 'f' => return some '\x0c'
  | 'n' => return some '\n'
  | 'r' => return some '\r'
  | 't' => return some '\t'
  | 'v' => return some '\x0b'
  | '0' => return some '\x00'
  | 'x' => return some (← codePoint 2)
  | 'u' => return some (← unit)
  | '\r' => do
      let _ ← accept "\n"
      return none
  | c =>
      if ['\n', '\u2028', '\u2029'].contains c then return none
      else do
        require !c.isDigit
        return some c

/-- What is left of a text, to the quote that ends it. -/
def restOfText (quote : Char) : Nat → List Char → Scan String
  | 0, _ => failure
  | fuel + 1, taken => do
      let c ← next
      if c = quote then return String.ofList taken.reverse
      else if c = '\\' then restOfText quote fuel ((← escape).toList ++ taken)
      else do
        require (c != '\n' && c != '\r')
        restOfText quote fuel (c :: taken)

/-! ## Values -/

def isNameChar (c : Char) : Bool := c.isAlphanum || c == '_' || c == '$' || 0x80 ≤ c.toNat

def isNumberChar (c : Char) : Bool := c.isAlphanum || c == '.' || c == '+' || c == '-'

/-- A number by its whole text. -/
def number? (cs : List Char) : Option Json.Number :=
  let (negative, digits) := Text.cutSign cs
  let signed (n : Nat) : Int := if negative then -(n : Int) else n
  match digits with
  | '0' :: x :: hex =>
      if x = 'x' ∨ x = 'X' then
        ((Text.numberIn? 16 hex).bind fun n => signed? 64 (signed n)).map .whole
      else if x.isDigit then none
      else (Text.float? cs).map .fraction
  | _ =>
      if String.ofList digits = "Infinity" then some (.fraction (.infinite negative))
      else if String.ofList digits = "NaN" then some (.fraction .nan)
      else if !(digits.head?.any fun c => c.isDigit || c == '.') then none
      else if digits.all Char.isDigit then
        ((Text.numberIn? 10 digits).bind fun n => signed? 64 (signed n)).map .whole
      else (Text.float? cs).map .fraction

/-- A word: a constant or a number. -/
def word : Scan Json.Value := do
  let cs ← takeWhile isNumberChar
  match String.ofList cs with
  | "null" => return .null
  | "true" => return .bool true
  | "false" => return .bool false
  | _ => return .number (← found (number? cs))

/-- A key, quoted or not. -/
def key (fuel : Nat) : Scan String := do
  if ← accept "\"" then restOfText '"' fuel []
  else if ← accept "'" then restOfText '\'' fuel []
  else do
    let cs ← takeWhile isNameChar
    require (cs.head?.any (!·.isDigit))
    return String.ofList cs

/-- A value; lists and objects nest no deeper than there are characters. -/
def value : Nat → Scan Json.Value
  | 0 => failure
  | depth + 1 => do
      let fuel := (← get).length + 1
      if ← accept "\"" then return .string (← restOfText '"' fuel [])
      else if ← accept "'" then return .string (← restOfText '\'' fuel [])
      else if ← accept "[" then
        let item (items : List Json.Value) : Scan (List Json.Value) := do
          return (← value depth) :: items
        return .array (← itemsUntil (skip fuel) "]" item fuel []).reverse
      else if ← accept "\x7b" then
        let member (members : Keyed Json.Value) : Scan (Keyed Json.Value) := do
          let name ← key fuel
          skip fuel
          expect ":"
          skip fuel
          return Keyed.put name (← value depth) members
        return .object (← itemsUntil (skip fuel) "\x7d" member fuel [])
      else word

/-- The members of a document. -/
def parse? (text : String) : Option (Keyed Json.Value) := do
  let cs := text.toList
  let document : Scan Json.Value := do
    skip (cs.length + 1)
    let v ← value (cs.length + 1)
    skip (cs.length + 1)
    return v
  match ← whole document cs with
  | .object members => some members
  | _ => none

end DurableJobs.Config.Json5
