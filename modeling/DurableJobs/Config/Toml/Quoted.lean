import DurableJobs.Json.Value
import DurableJobs.Text.Scan

/-!
# Quoted texts and keys in TOML

Texts stand between double quotes, with escapes, or between single quotes, without any. Tripled quotes
let a text go over several lines: a break right behind the opening ones does not count, and one or two
quotes may stand right before the closing ones.
-/

set_option autoImplicit false

namespace DurableJobs.Config.Toml

open DurableJobs.Text (Scan)
open DurableJobs.Text.Scan

/-! ## Blanks -/

def isBlank (c : Char) : Bool := c == ' ' || c == '\t'

def skipBlanks : Scan Unit := skipWhile isBlank

/-- The end of a line, if it is here. -/
def acceptBreak : Scan Bool := do
  if ← accept "\n" then return true else accept "\r\n"

/-- Characters that may stand in a text or a comment as they are. -/
def isPlain (c : Char) : Bool := c == '\t' || (32 ≤ c.toNat && c.toNat != 127)

/-- A comment, if there is one, up to the end of the line. -/
def skipComment : Scan Unit := do
  if ← accept "#" then skipWhile isPlain

/-- Blanks, comments and ends of lines, as far as they go. Each round takes an end of line. -/
def skipLines : Nat → Scan Unit
  | 0 => pure ()
  | fuel + 1 => do
      skipBlanks
      skipComment
      if ← acceptBreak then skipLines fuel

/-! ## Escapes -/

/-- What stands behind a backslash. -/
def escape : Scan Char := do
  match ← next with
  | 'b' => return '\x08'
  | 't' => return '\t'
  | 'n' => return '\n'
  | 'f' => return '\x0c'
  | 'r' => return '\r'
  | 'e' => return '\x1b'
  | '"' => return '"'
  | '\\' => return '\\'
  | 'x' => codePoint 2
  | 'u' => codePoint 4
  | 'U' => codePoint 8
  | _ => failure

/-! ## Texts -/

/-- What is left of a text on one line, to the quote that ends it. -/
def restOfLine (quote : Char) : Nat → List Char → Scan String
  | 0, _ => failure
  | fuel + 1, taken => do
      let c ← next
      if c = quote then return String.ofList taken.reverse
      else if c = '\\' ∧ quote = '"' then restOfLine quote fuel ((← escape) :: taken)
      else do
        require (isPlain c)
        restOfLine quote fuel (c :: taken)

/-- Whether a backslash stands before nothing but blanks up to the end of its line. -/
def endsLine (cs : List Char) : Bool :=
  match cs.dropWhile isBlank with
  | '\n' :: _ => true
  | '\r' :: '\n' :: _ => true
  | _ => false

/-- What is left of a text over several lines, to the three quotes that end it. -/
def restOfLines (quote : Char) : Nat → List Char → Scan String
  | 0, _ => failure
  | fuel + 1, taken => do
      let quotes := (← get).takeWhile (· == quote)
      if 3 ≤ quotes.length then
        require (quotes.length ≤ 5)
        modify (·.drop quotes.length)
        return String.ofList (List.replicate (quotes.length - 3) quote ++ taken).reverse
      else if ← acceptBreak then restOfLines quote fuel ('\n' :: taken)
      else do
        let c ← next
        if c = '\\' ∧ quote = '"' then
          if endsLine (← get) then
            skipWhile fun c => isBlank c || c == '\n' || c == '\r'
            restOfLines quote fuel taken
          else restOfLines quote fuel ((← escape) :: taken)
        else do
          require (isPlain c)
          restOfLines quote fuel (c :: taken)

/-- A text behind its first quote, on one line or over several. -/
def quoted (quote : Char) : Scan String := do
  let fuel := (← get).length
  if ← accept (String.ofList [quote, quote]) then
    let _ ← acceptBreak
    restOfLines quote fuel []
  else restOfLine quote fuel []

/-! ## Keys -/

def isKeyChar (c : Char) : Bool := c.isAlphanum || c == '_' || c == '-'

/-- A name, bare or quoted on one line. -/
def name : Scan String := do
  let fuel := (← get).length
  if ← accept "\"" then restOfLine '"' fuel []
  else if ← accept "'" then restOfLine '\'' fuel []
  else do
    let cs ← takeWhile isKeyChar
    require !cs.isEmpty
    return String.ofList cs

/-- Names joined by dots, with blanks around each. -/
def key : Nat → Scan (List String)
  | 0 => failure
  | fuel + 1 => do
      skipBlanks
      let first ← name
      skipBlanks
      if ← accept "." then return first :: (← key fuel) else return [first]

end DurableJobs.Config.Toml
