import DurableJobs.Json.Cursor

/-!
# Reading values

`skipValue` steps over one value without looking inside more than it must: nesting is a stack and may
be of any depth, numbers may be of any size. `readValue` builds the value and refuses a nesting of 128.
`parse` reads a document that is one value and nothing else.
-/

set_option autoImplicit false

namespace DurableJobs.Json

open DurableJobs.Text

/-- How deep a value that is built may be nested, one more than the deepest accepted. -/
def nestingLimit : Nat := 128

/-! ## Separators -/

/-- A list's next element, or its end, which is left for `endList`. -/
inductive Ahead where
  | element (c : Cursor)
  | close (c : Cursor)

/-- Look for the next element of a list. -/
def nextElement (first : Bool) (c : Cursor) : Except Error Ahead :=
  let c := c.skipSpace
  match c.peek with
  | none => c.failNext .endInList
  | some s =>
      if s = some ']' then .ok (.close c)
      else if first then .ok (.element c)
      else if s = some ',' then
        let c := c.skip.skipSpace
        match c.peek with
        | none => c.failNext .endInValue
        | some s => if s = some ']' then c.failNext .trailingComma else .ok (.element c)
      else c.failNext .expectedListCommaOrEnd

/-- Look for the next key of an object; the cursor of an element stands behind the key's quote. -/
def nextKey (first : Bool) (c : Cursor) : Except Error Ahead :=
  let c := c.skipSpace
  match c.peek with
  | none => c.failNext .endInObject
  | some s =>
      if s = some '\x7d' then .ok (.close c)
      else if first then
        if s = some '"' then .ok (.element c.skip) else c.failNext .keyMustBeString
      else if s = some ',' then
        let c := c.skip.skipSpace
        match c.peek with
        | none => c.failNext .endInValue
        | some s =>
            if s = some '"' then .ok (.element c.skip)
            else if s = some '\x7d' then c.failNext .trailingComma
            else c.failNext .keyMustBeString
      else c.failNext .expectedObjectCommaOrEnd

/-- The end of a list that should have no further element. -/
def endList (c : Cursor) : Cursor × Option Error :=
  let c := c.skipSpace
  let flawed (c : Cursor) (flaw : Flaw) : Cursor × Option Error :=
    (c, some (.malformed flaw c.nextPosition))
  match c.peek with
  | none => flawed c .endInList
  | some s =>
      if s = some ']' then (c.skip, none)
      else if s = some ',' then
        let c := c.skip.skipSpace
        if c.peek = some (some ']') then flawed c .trailingComma else flawed c .trailingCharacters
      else flawed c .trailingCharacters

/-- The end of an object that should have no further member. -/
def endObject (c : Cursor) : Cursor × Option Error :=
  let c := c.skipSpace
  let flawed (flaw : Flaw) : Cursor × Option Error := (c, some (.malformed flaw c.nextPosition))
  match c.peek with
  | none => flawed .endInObject
  | some s =>
      if s = some '\x7d' then (c.skip, none)
      else if s = some ',' then flawed .trailingComma
      else flawed .trailingCharacters

def readColon (c : Cursor) : Except Error Cursor :=
  let c := c.skipSpace
  match c.peek with
  | none => c.failNext .endInObject
  | some s => if s = some ':' then .ok c.skip else c.failNext .expectedColon

/-! ## Skipping -/

/-- The brackets a skipped value is inside of. -/
inductive Bracket where
  | list
  | object
  deriving DecidableEq, Repr

/-- Step over the digits of a number without a bound on its size. -/
def skipNumber (c : Cursor) : Except Error Cursor :=
  match digitOf? c.peek with
  | none => (if c.rest.isEmpty then c.fail .invalidNumber else c.failNext .invalidNumber)
  | some first =>
      let (ds, after) := c.digits
      if first = 0 ∧ 1 < ds.length then c.skip.failNext .invalidNumber
      else if after.peek = some (some '.') then
        let (decimals, after) := after.skip.digits
        if decimals.isEmpty then after.failNext .invalidNumber
        else if startsExponent after.peek then skipExponent after else .ok after
      else if startsExponent after.peek then skipExponent after
      else .ok after
where
  skipExponent (c : Cursor) : Except Error Cursor :=
    let c := c.skip
    let c := if c.peek = some (some '+') ∨ c.peek = some (some '-') then c.skip else c
    match digitOf? c.peek with
    | none => (if c.rest.isEmpty then c.fail .invalidNumber else c.failNext .invalidNumber)
    | some _ => .ok c.digits.2

/-- Step over a scalar; a bracket is answered instead, with the cursor behind it. -/
def skipScalar (c : Cursor) : Except Error (Option Bracket × Cursor) :=
  match c.peek with
  | none => c.failNext .endInValue
  | some s =>
      match s with
      | some 'n' => (readIdent ['u', 'l', 'l'] c.skip).map (none, ·)
      | some 't' => (readIdent ['r', 'u', 'e'] c.skip).map (none, ·)
      | some 'f' => (readIdent ['a', 'l', 's', 'e'] c.skip).map (none, ·)
      | some '-' => (skipNumber c.skip).map (none, ·)
      | some '"' => (skipString c.skip).map (none, ·)
      | some '[' => .ok (some .list, c.skip)
      | some '\x7b' => .ok (some .object, c.skip)
      | s => if (digitOf? (some s)).isSome then (skipNumber c).map (none, ·)
             else c.failNext .expectedValue

/-- Behind a value inside `stack`: close what closes. The answer is the stack to go on in, or none
when the outermost bracket has closed. -/
def skipCloses (acceptComma : Bool) :
    List Bracket → Cursor → Except Error (List Bracket × Cursor)
  | [], c => .ok ([], c)
  | bracket :: stack, c =>
      let c := c.skipSpace
      let close := match bracket with
        | .list => ']'
        | .object => '\x7d'
      match c.peek with
      | none => c.failNext (match bracket with
          | .list => .endInList
          | .object => .endInObject)
      | some s =>
          if s = some ',' ∧ acceptComma then .ok (bracket :: stack, c.skip)
          else if s = some close then skipCloses true stack c.skip
          else if acceptComma then c.failNext (match bracket with
            | .list => .expectedListCommaOrEnd
            | .object => .expectedObjectCommaOrEnd)
          else .ok (bracket :: stack, c)

/-- A skipped member's key and colon. -/
def skipKey (c : Cursor) : Except Error Cursor :=
  let c := c.skipSpace
  match c.peek with
  | none => c.failNext .endInObject
  | some s =>
      if s = some '"' then do
        let c ← skipString c.skip
        readColon c
      else c.failNext .keyMustBeString

/-- Step over values until the stack of brackets is empty. -/
def skipWithin : Nat → List Bracket → Cursor → Except Error Cursor
  | 0, _, c => .ok c
  | fuel + 1, stack, c => do
      let (opened, c) ← skipScalar c.skipSpace
      let (stack, c) ←
        match opened with
        | some bracket => skipCloses false (bracket :: stack) c
        | none => skipCloses true stack c
      match stack with
      | [] => .ok c
      | .list :: _ => skipWithin fuel stack c
      | .object :: _ => do
          let c ← skipKey c
          skipWithin fuel stack c

/-- Step over one value. -/
def skipValue (c : Cursor) : Except Error Cursor := skipWithin (c.rest.length + 1) [] c

/-! ## Building -/

mutual

/-- One value; `depth` more brackets may be opened. -/
def readWithin : Nat → Nat → Cursor → Except Error (Value × Cursor)
  | 0, _, c => c.failNext .endInValue
  | fuel + 1, depth, c =>
      let c := c.skipSpace
      match c.peek with
      | none => c.failNext .endInValue
      | some s =>
          match s with
          | some 'n' => (readIdent ['u', 'l', 'l'] c.skip).map (Value.null, ·)
          | some 't' => (readIdent ['r', 'u', 'e'] c.skip).map (Value.bool true, ·)
          | some 'f' => (readIdent ['a', 'l', 's', 'e'] c.skip).map (Value.bool false, ·)
          | some '-' => (readNumber false c.skip).map fun (n, c) => (.number n, c)
          | some '"' => (readString c.skip).map fun (s, c) => (.string s, c)
          | some '[' =>
              if depth ≤ 1 then c.failNext .recursionLimit
              else do
                let (items, c) ← readElements fuel (depth - 1) true [] c.skip
                .ok (.array items, c)
          | some '\x7b' =>
              if depth ≤ 1 then c.failNext .recursionLimit
              else do
                let (members, c) ← readMembers fuel (depth - 1) true [] c.skip
                .ok (Value.ofMembers members, c)
          | s =>
              if (digitOf? (some s)).isSome then
                (readNumber true c).map fun (n, c) => (.number n, c)
              else c.failNext .expectedValue

/-- The elements of a list up to and with its bracket. -/
def readElements : Nat → Nat → Bool → List Value → Cursor → Except Error (List Value × Cursor)
  | 0, _, _, _, c => c.failNext .endInList
  | fuel + 1, depth, first, read, c => do
      match ← nextElement first c with
      | .close c => .ok (read.reverse, c.skip)
      | .element c =>
          let (item, c) ← readWithin fuel depth c
          readElements fuel depth false (item :: read) c

/-- The members of an object up to and with its bracket. -/
def readMembers :
    Nat → Nat → Bool → List (String × Value) → Cursor →
      Except Error (List (String × Value) × Cursor)
  | 0, _, _, _, c => c.failNext .endInObject
  | fuel + 1, depth, first, read, c => do
      match ← nextKey first c with
      | .close c => .ok (read.reverse, c.skip)
      | .element c =>
          let (key, c) ← readString c
          let c ← readColon c
          let (value, c) ← readWithin fuel depth c
          readMembers fuel depth false ((key, value) :: read) c

end

/-- One value, of any shape. Each symbol costs two steps at most. -/
def readValue (c : Cursor) : Except Error (Value × Cursor) :=
  readWithin (2 * c.rest.length + 2) nestingLimit c

/-- Nothing but blanks may follow. -/
def endDocument {α : Type} (result : α × Cursor) : Except Error α :=
  let c := result.2.skipSpace
  if c.rest.isEmpty then .ok result.1 else c.failNext .trailingCharacters

/-- A document that is one value. -/
def parseSymbols (document : List Symbol) : Except Error Value := do
  endDocument (← readValue (Cursor.ofSymbols document))

/-- A text that is a document. -/
def parse (text : String) : Except Error Value := parseSymbols (symbolsOfString text)

end DurableJobs.Json
