import DurableJobs.Json.Error
import DurableJobs.Numeric.Width
import DurableJobs.Text.Digits
import DurableJobs.Text.Utf8

/-!
# Reading tokens

A `Cursor` is what is left of a document and the place reached. Each reader takes a cursor and answers
with a value and the cursor behind it, or with an error that carries its place. Two places matter: a
reader that has consumed the offending symbol reports where it stands (`Cursor.fail`), one that only
looked at it reports the place one byte further (`Cursor.failNext`).
-/

set_option autoImplicit false

namespace DurableJobs.Json

open DurableJobs.Text

structure Cursor where
  rest : List Symbol
  line : Nat
  column : Nat
  deriving Repr

namespace Cursor

def ofSymbols (symbols : List Symbol) : Cursor := ⟨symbols, 1, 0⟩

def position (c : Cursor) : Position := ⟨c.line, c.column⟩

/-- The place behind the next byte; the end of the document stays where it is. -/
def nextPosition (c : Cursor) : Position :=
  match c.rest with
  | [] => c.position
  | some '\n' :: _ => ⟨c.line + 1, 0⟩
  | _ :: _ => ⟨c.line, c.column + 1⟩

/-- Step over one symbol. -/
def skip (c : Cursor) : Cursor :=
  match c.rest with
  | [] => c
  | some '\n' :: rest => ⟨rest, c.line + 1, 0⟩
  | s :: rest => ⟨rest, c.line, c.column + s.size⟩

/-- The place `count` bytes further on, which may be inside a character. -/
def positionAfter (count : Nat) : List Symbol → Position → Position
  | [], p => p
  | s :: rest, p =>
      if count = 0 then p
      else if s = some '\n' then positionAfter (count - 1) rest ⟨p.line + 1, 0⟩
      else if s.size ≤ count then positionAfter (count - s.size) rest ⟨p.line, p.column + s.size⟩
      else ⟨p.line, p.column + count⟩

def peek (c : Cursor) : Option Symbol := c.rest.head?

def fail {α : Type} (c : Cursor) (flaw : Flaw) : Except Error α :=
  .error (.malformed flaw c.position)

def failNext {α : Type} (c : Cursor) (flaw : Flaw) : Except Error α :=
  .error (.malformed flaw c.nextPosition)

def mismatch {α : Type} (c : Cursor) (m : Mismatch) : Except Error α :=
  .error (.mismatched m c.position)

end Cursor

/-! ## Blanks and words -/

def isSpace (s : Symbol) : Bool :=
  s == some ' ' || s == some '\n' || s == some '\t' || s == some '\r'

/-- Step over blanks, by recursion on what is left. -/
def skipSpaceFrom : List Symbol → Nat → Nat → Cursor
  | [], line, column => ⟨[], line, column⟩
  | s :: rest, line, column =>
      if s == some '\n' then skipSpaceFrom rest (line + 1) 0
      else if isSpace s then skipSpaceFrom rest line (column + 1)
      else ⟨s :: rest, line, column⟩

def Cursor.skipSpace (c : Cursor) : Cursor := skipSpaceFrom c.rest c.line c.column

/-- The letters of a word, each consumed before it is judged. -/
def readIdent : List Char → Cursor → Except Error Cursor
  | [], c => .ok c
  | letter :: letters, c =>
      match c.peek with
      | none => c.fail .endInValue
      | some s =>
          if s = some letter then readIdent letters c.skip
          else
            -- One byte of the offending symbol has been consumed.
            c.failNext .expectedIdent

/-! ## Strings -/

/-- Four hexadecimal digits; fewer than four bytes left is the end of the document. -/
def readHex (c : Cursor) : Except Error (Nat × Cursor) :=
  let digits := (c.rest.take 4).filterMap fun s => s.bind hexValue?
  if digits.length = 4 then
    .ok (ofDigits 16 digits, ⟨c.rest.drop 4, c.line, c.column + 4⟩)
  else if Symbol.sizes c.rest < 4 then
    .error (.malformed .endInString (Cursor.positionAfter (Symbol.sizes c.rest) c.rest c.position))
  else
    .error (.malformed .invalidEscape (Cursor.positionAfter 4 c.rest c.position))

/-- The second half of a pair of surrogates, which has to be an escape of its own. -/
def readTrailing (lead : Nat) (c : Cursor) : Except Error (Char × Cursor) :=
  match c.peek with
  | none => c.fail .endInString
  | some s =>
      if s ≠ some '\\' then c.failNext .unexpectedEndOfHexEscape
      else
        let c := c.skip
        match c.peek with
        | none => c.fail .endInString
        | some s =>
            if s ≠ some 'u' then c.failNext .unexpectedEndOfHexEscape
            else do
              let (n, c) ← readHex c.skip
              if 0xDC00 ≤ n ∧ n ≤ 0xDFFF then
                .ok (Char.ofNat (0x10000 + (lead - 0xD800) * 0x400 + (n - 0xDC00)), c)
              else c.fail .loneSurrogate

/-- The character of an escape, behind its backslash. With `lenient` surrogates need no partner. -/
def readEscape (lenient : Bool) (c : Cursor) : Except Error (Char × Cursor) :=
  match c.peek with
  | none => c.fail .endInString
  | some s =>
      let next := c.skip
      match s with
      | some '"' => .ok ('"', next)
      | some '\\' => .ok ('\\', next)
      | some '/' => .ok ('/', next)
      | some 'b' => .ok ('\x08', next)
      | some 'f' => .ok ('\x0c', next)
      | some 'n' => .ok ('\n', next)
      | some 'r' => .ok ('\r', next)
      | some 't' => .ok ('\t', next)
      | some 'u' => do
          let (n, after) ← readHex next
          if lenient then .ok ('\x00', after)
          else if 0xDC00 ≤ n ∧ n ≤ 0xDFFF then after.fail .loneSurrogate
          else if 0xD800 ≤ n ∧ n ≤ 0xDBFF then readTrailing n after
          else .ok (Char.ofNat n, after)
      | _ => c.failNext .invalidEscape

/-- A string body up to and with its closing quote. Broken bytes are noticed at the end only, at the
first of them, and not at all with `lenient`. -/
def readStringFrom (lenient : Bool) :
    Nat → List Char → Option Position → Cursor → Except Error (String × Cursor)
  | 0, _, _, c => c.fail .endInString
  | fuel + 1, read, broken, c =>
      match c.peek with
      | none => c.fail .endInString
      | some none => readStringFrom lenient fuel read (broken <|> some c.nextPosition) c.skip
      | some (some ch) =>
          if ch = '"' then
            match broken, lenient with
            | some p, false => .error (.malformed .invalidCodePoint p)
            | _, _ => .ok (String.ofList read.reverse, c.skip)
          else if ch = '\\' then do
            let (escaped, c) ← readEscape lenient c.skip
            readStringFrom lenient fuel (escaped :: read) broken c
          else if ch.toNat < 32 then c.failNext .controlCharacter
          else readStringFrom lenient fuel (ch :: read) broken c.skip

/-- The body of a string whose opening quote has been consumed. -/
def readString (c : Cursor) : Except Error (String × Cursor) :=
  readStringFrom false (c.rest.length + 1) [] none c

/-- The same, looking only for the end. -/
def skipString (c : Cursor) : Except Error Cursor :=
  (readStringFrom true (c.rest.length + 1) [] none c).map Prod.snd

/-! ## Numbers -/

def digitOf? (s : Option Symbol) : Option Nat :=
  match s with
  | some (some c) => digitIn? 10 c
  | _ => none

def startsExponent (s : Option Symbol) : Bool := s == some (some 'e') || s == some (some 'E')

/-- Digits that lie side by side, by recursion on what is left. -/
def spanDigits : List Symbol → List Nat × List Symbol
  | [] => ([], [])
  | s :: rest =>
      match digitOf? (some s) with
      | some d => let (ds, rest) := spanDigits rest; (d :: ds, rest)
      | none => ([], s :: rest)

/-- The digits at the cursor and the cursor behind them. -/
def Cursor.digits (c : Cursor) : List Nat × Cursor :=
  let (ds, rest) := spanDigits c.rest
  (ds, ⟨rest, c.line, c.column + ds.length⟩)

/-- Take digits into a 64 bit significand as long as it fits: the significand, how many digits were
taken and how many were left over. -/
def takeSignificand : Nat → Nat → List Nat → Nat × Nat × Nat
  | significand, taken, [] => (significand, taken, 0)
  | significand, taken, d :: ds =>
      if significand * 10 + d ≤ greatestUnsigned 64 then
        takeSignificand (significand * 10 + d) (taken + 1) ds
      else (significand, taken, ds.length + 1)

/-- `±significand * 10^exponent` by scaling with powers of ten that are themselves rounded, at most
`10^308` in a step: exact for short decimals, and overflow is an error. -/
def scaleFrom (c : Cursor) : Nat → Binary64 → Int → Except Error Binary64
  | 0, x, _ => .ok x
  | fuel + 1, x, exponent =>
      if exponent.natAbs ≤ 308 then
        let power := Binary64.ofNat (Nat.pow 10 exponent.natAbs)
        if 0 ≤ exponent then
          let y := x.mul power
          if y.isFinite then .ok y else c.fail .numberOutOfRange
        else .ok (x.div power)
      else if x.isZero then .ok x
      else if 0 ≤ exponent then c.fail .numberOutOfRange
      else scaleFrom c fuel (x.div (Binary64.ofNat (Nat.pow 10 308))) (exponent + 308)

/-- A fraction from its parts. A magnitude below `10^-400` needs no further steps: it is zero. -/
def fraction (positive : Bool) (significand : Nat) (exponent : Int) (c : Cursor) :
    Except Error (Number × Cursor) := do
  let x ← scaleFrom c 5 (Binary64.ofNat significand) (max exponent (-1400))
  .ok (.fraction (if positive then x else x.neg), c)

/-- The exponent behind `e`, applied to what was read before it. -/
def readExponent (positive : Bool) (significand : Nat) (exponent : Int) (c : Cursor) :
    Except Error (Number × Cursor) :=
  let c := c.skip
  let (negative, c) :=
    match c.peek with
    | some (some '+') => (false, c.skip)
    | some (some '-') => (true, c.skip)
    | _ => (false, c)
  match c.peek, digitOf? c.peek with
  | none, _ => c.fail .endInValue
  | some _, none => c.failNext .invalidNumber
  | some _, some _ =>
      let (ds, after) := c.digits
      let power : Nat := ofDigits 10 ds
      if !fitsSigned 32 power then
        if significand ≠ 0 ∧ !negative then
          -- The error is raised at the digit that takes the exponent beyond 32 bits.
          let fits := takeExponent 0 0 ds
          (⟨c.rest.drop (fits + 1), c.line, c.column + fits + 1⟩ : Cursor).fail .numberOutOfRange
        else .ok (.fraction (Binary64.zero (!positive)), after)
      else
        let signed : Int := if negative then -(power : Int) else power
        fraction positive significand (exponent + signed) after
where
  /-- How many digits of an exponent stay within 32 bits. -/
  takeExponent : Nat → Nat → List Nat → Nat
    | _, taken, [] => taken
    | power, taken, d :: ds =>
        if fitsSigned 32 (power * 10 + d : Nat) then takeExponent (power * 10 + d) (taken + 1) ds else taken

/-- The decimals behind a point, applied to the whole part. -/
def readDecimals (positive : Bool) (significand : Nat) (exponent : Int) (c : Cursor) :
    Except Error (Number × Cursor) :=
  let c := c.skip
  let (ds, after) := c.digits
  match ds with
  | [] => if c.rest.isEmpty then c.failNext .endInValue else c.failNext .invalidNumber
  | _ =>
      let (significand, taken, _) := takeSignificand significand 0 ds
      let exponent := exponent - taken
      if startsExponent after.peek then readExponent positive significand exponent after
      else fraction positive significand exponent after

/-- A number whose sign has been consumed. -/
def readNumber (positive : Bool) (c : Cursor) : Except Error (Number × Cursor) :=
  match c.peek, digitOf? c.peek with
  | none, _ => c.fail .endInValue
  | some _, none => c.failNext .invalidNumber
  | some _, some first =>
      let (ds, after) := c.digits
      if first = 0 ∧ 1 < ds.length then
        -- There is one leading zero at most.
        c.skip.failNext .invalidNumber
      else
        let (significand, _, dropped) := takeSignificand 0 0 ds
        if after.peek = some (some '.') then readDecimals positive significand dropped after
        else if startsExponent after.peek then readExponent positive significand dropped after
        else if 0 < dropped then fraction positive significand dropped after
        else if positive then .ok (.whole significand, after)
        else if significand = 0 ∨ !fitsSigned 64 (-significand) then
          .ok (.fraction (Binary64.ofNat significand).neg, after)
        else .ok (.whole (-significand), after)

end DurableJobs.Json
