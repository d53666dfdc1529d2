import DurableJobs.Json.Value
import DurableJobs.Text.Quoted

/-!
# What can be wrong with a document

A document fails in one of two ways: it is not well formed (`Flaw`), or it is well formed and does not
have the shape asked for (`Mismatch`). Both are reported with the line and the column, in bytes, at
which reading stood.
-/

set_option autoImplicit false

namespace DurableJobs.Json

/-- A document that is not well formed. -/
inductive Flaw where
  | endInValue
  | endInString
  | endInList
  | endInObject
  | expectedColon
  | expectedListCommaOrEnd
  | expectedObjectCommaOrEnd
  | expectedIdent
  | expectedValue
  | trailingComma
  | trailingCharacters
  | keyMustBeString
  | invalidNumber
  | numberOutOfRange
  | controlCharacter
  | loneSurrogate
  | unexpectedEndOfHexEscape
  | invalidEscape
  | invalidCodePoint
  | recursionLimit
  deriving DecidableEq, Repr

def Flaw.text : Flaw → String
  | .endInValue => "EOF while parsing a value"
  | .endInString => "EOF while parsing a string"
  | .endInList => "EOF while parsing a list"
  | .endInObject => "EOF while parsing an object"
  | .expectedColon => "expected `:`"
  | .expectedListCommaOrEnd => "expected `,` or `]`"
  | .expectedObjectCommaOrEnd => "expected `,` or `\x7d`"
  | .expectedIdent => "expected ident"
  | .expectedValue => "expected value"
  | .trailingComma => "trailing comma"
  | .trailingCharacters => "trailing characters"
  | .keyMustBeString => "key must be a string"
  | .invalidNumber => "invalid number"
  | .numberOutOfRange => "number out of range"
  | .controlCharacter => "control character (\\u0000-\\u001F) found while parsing a string"
  | .loneSurrogate => "lone leading surrogate in hex escape"
  | .unexpectedEndOfHexEscape => "unexpected end of hex escape"
  | .invalidEscape => "invalid escape"
  | .invalidCodePoint => "invalid unicode code point"
  | .recursionLimit => "recursion limit exceeded"

/-- What stood where something else was expected. -/
inductive Found where
  | null
  | boolean (b : Bool)
  | number (n : Number)
  | string (s : String)
  | sequence
  | map
  deriving Repr

def Found.text : Found → String
  | .null => "null"
  | .boolean b => "boolean `" ++ (if b then "true" else "false") ++ "`"
  | .number (.whole n) => "integer `" ++ toString n ++ "`"
  | .number (.fraction x) => "floating point `" ++ (Number.fraction x).text ++ "`"
  | .string s => "string " ++ Text.quote s
  | .sequence => "sequence"
  | .map => "map"

/-- A well-formed document of the wrong shape. -/
inductive Mismatch where
  | invalidType (found : Found) (expected : String)
  | invalidValue (found : Found) (expected : String)
  | invalidLength (length : Nat) (expected : String)
  | unknownVariant (name : String) (known : List String)
  | missingField (name : String)
  | duplicateField (name : String)
  | custom (text : String)
  deriving Repr

/-- The names a choice is made from: one alone, two joined by "or", more as a list. -/
def oneOf : List String → String
  | [] => "there are no variants"
  | [a] => "expected `" ++ a ++ "`"
  | [a, b] => "expected `" ++ a ++ "` or `" ++ b ++ "`"
  | names => "expected one of " ++ ", ".intercalate (names.map fun name => "`" ++ name ++ "`")

def Mismatch.text : Mismatch → String
  | .invalidType found expected => "invalid type: " ++ found.text ++ ", expected " ++ expected
  | .invalidValue found expected => "invalid value: " ++ found.text ++ ", expected " ++ expected
  | .invalidLength length expected =>
      "invalid length " ++ toString length ++ ", expected " ++ expected
  | .unknownVariant name known => "unknown variant `" ++ name ++ "`, " ++ oneOf known
  | .missingField name => "missing field `" ++ name ++ "`"
  | .duplicateField name => "duplicate field `" ++ name ++ "`"
  | .custom text => text

/-- A place in a document: lines from one, columns in bytes from zero. -/
structure Position where
  line : Nat
  column : Nat
  deriving DecidableEq, Repr

inductive Error where
  | malformed (flaw : Flaw) (position : Position)
  | mismatched (mismatch : Mismatch) (position : Position)
  deriving Repr

def Position.text (p : Position) : String :=
  " at line " ++ toString p.line ++ " column " ++ toString p.column

def Error.message : Error → String
  | .malformed flaw position => flaw.text ++ position.text
  | .mismatched mismatch position => mismatch.text ++ position.text

/-- Why a value with a key that is no string cannot be written. -/
def keyNotStringText : String := Flaw.keyMustBeString.text

end DurableJobs.Json
