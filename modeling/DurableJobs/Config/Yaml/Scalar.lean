import DurableJobs.Json.Value
import DurableJobs.Text.Decimal
import DurableJobs.Text.Scan

/-!
# Scalars in YAML

A plain scalar is a null, a truth value or a number if it is spelled like one, and else a text. Quoted
scalars are texts, with escapes between double quotes and a doubled quote between single ones.
-/

set_option autoImplicit false

namespace DurableJobs.Config.Yaml

open DurableJobs.Text (Scan)
open DurableJobs.Text.Scan

def isBlank (c : Char) : Bool := c == ' ' || c == '\t'

/-- A text without the blanks around it. -/
def trimmed (cs : List Char) : List Char :=
  ((cs.dropWhile isBlank).reverse.dropWhile isBlank).reverse

/-! ## Plain scalars -/

/-- A number in a base of 16 or 8, without an underscore. -/
def based? (base : Nat) (cs : List Char) : Option Int :=
  (Text.numberIn? base cs).bind fun n => signed? 64 n

def integer? (cs : List Char) : Option Int :=
  match cs with
  | '0' :: 'x' :: digits => based? 16 digits
  | '0' :: 'o' :: digits => based? 8 digits
  | cs => Text.int64? cs

/-- The numbers without end and the one that is none have words that begin with a point. No layer can
hold them. -/
def endlessWords : List String :=
  let plain := [".inf", ".Inf", ".INF"]
  plain ++ plain.map ("+" ++ ·) ++ plain.map ("-" ++ ·) ++ [".nan", ".NaN", ".NAN"]

/-- What a plain scalar stands for. -/
def plainScalar (cs : List Char) : Option Json.Value :=
  let s := String.ofList cs
  if s = "" ∨ s = "~" ∨ s = "null" then some .null
  else if s = "true" then some (.bool true)
  else if s = "false" then some (.bool false)
  else if endlessWords.contains s then none
  else
    match integer? cs, if cs.any Char.isDigit then Text.float? cs else none with
    | some n, _ => some (.number (.whole n))
    | none, some x => some (.number (.fraction x))
    | none, none => some (.string s)

/-! ## Quoted scalars -/

/-- The escapes that are one letter. -/
def letterEscapes : List (Char × Char) :=
  [('0', '\x00'), ('a', '\x07'), ('b', '\x08'), ('t', '\t'), ('\t', '\t'), ('n', '\n'), ('v', '\x0b'),
   ('f', '\x0c'), ('r', '\r'), ('e', '\x1b'), (' ', ' '), ('"', '"'), ('/', '/'), ('\\', '\\'),
   ('N', '\u0085'), ('_', '\u00a0'), ('L', '\u2028'), ('P', '\u2029')]

def escape : Scan Char := do
  match ← next with
  | 'x' => codePoint 2
  | 'u' => codePoint 4
  | 'U' => codePoint 8
  | c =>
      match letterEscapes.lookup c with
      | some meant => return meant
      | none => failure

/-- What is left of a text between double quotes. -/
def restOfDouble : Nat → List Char → Scan String
  | 0, _ => failure
  | fuel + 1, taken => do
      let c ← next
      if c = '"' then return String.ofList taken.reverse
      else if c = '\\' then restOfDouble fuel ((← escape) :: taken)
      else restOfDouble fuel (c :: taken)

/-- What is left of a text between single quotes. -/
def restOfSingle : Nat → List Char → Scan String
  | 0, _ => failure
  | fuel + 1, taken => do
      let c ← next
      if c = '\'' then
        if ← accept "'" then restOfSingle fuel ('\'' :: taken)
        else return String.ofList taken.reverse
      else restOfSingle fuel (c :: taken)

/-- A quoted scalar, if there is one here. -/
def quoted? : Scan (Option String) := do
  let fuel := (← get).length
  if ← accept "\"" then return some (← restOfDouble fuel [])
  else if ← accept "'" then return some (← restOfSingle fuel [])
  else return none

end DurableJobs.Config.Yaml
