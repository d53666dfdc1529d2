import DurableJobs.Json.Choice
import DurableJobs.Json.Parser
import DurableJobs.Numeric.Width

/-!
# Reading and writing values of a known type

A `Codec` is a type's place in a document: how a value is read at a cursor, how it is written, and what
a record takes for a member that is absent. Reading looks at one byte to see whether the value can be of
the type at all; if not, a scalar is read to its end before it is refused, so that the error can name
it, and a list or an object is refused where it starts.
-/

set_option autoImplicit false

namespace DurableJobs.Json

abbrev Reader (α : Type) := Cursor → Except Error (α × Cursor)

structure Codec (α : Type) where
  read : Reader α
  write : α → String
  /-- The value of a member that is not there, if it may be missing. -/
  absent : Option α

/-- Refuse what stands at the cursor, where `expected` was asked for. -/
def refuse {α : Type} (expected : String) (c : Cursor) : Except Error α :=
  let refused (found : Found) (c : Cursor) : Except Error α :=
    c.mismatch (.invalidType found expected)
  match c.peek with
  | none => c.failNext .expectedValue
  | some s =>
      match s with
      | some 'n' => do refused .null (← readIdent ['u', 'l', 'l'] c.skip)
      | some 't' => do refused (.boolean true) (← readIdent ['r', 'u', 'e'] c.skip)
      | some 'f' => do refused (.boolean false) (← readIdent ['a', 'l', 's', 'e'] c.skip)
      | some '-' => do
          let (n, c) ← readNumber false c.skip
          refused (.number n) c
      | some '"' => do
          let (s, c) ← readString c.skip
          refused (.string s) c
      | some '[' => refused .sequence c
      | some '\x7b' => refused .map c
      | s =>
          if (digitOf? (some s)).isSome then do
            let (n, c) ← readNumber true c
            refused (.number n) c
          else c.failNext .expectedValue

/-- Step over blanks to a value, which has to be there. -/
def toValue (c : Cursor) : Except Error Cursor :=
  let c := c.skipSpace
  if c.peek.isNone then c.failNext .endInValue else .ok c

/-! ## Scalars -/

/-- A string that `decode` accepts; its refusal is placed behind the string. -/
def readText {α : Type} (expected : String) (decode : String → Except Mismatch α) : Reader α :=
  fun c => do
    let c ← toValue c
    if c.peek = some (some '"') then
      let (s, c) ← readString c.skip
      match decode s with
      | .ok a => .ok (a, c)
      | .error m => c.mismatch m
    else refuse expected c

def text : Codec String := ⟨readText "a string" .ok, stringText, none⟩

/-- A whole number from `low` to `high`. -/
def integer (expected : String) (low high : Int) : Codec Int where
  read c := do
    let c ← toValue c
    let judge : Number × Cursor → Except Error (Int × Cursor)
      | (.whole n, c) =>
          if low ≤ n ∧ n ≤ high then .ok (n, c)
          else c.mismatch (.invalidValue (.number (.whole n)) expected)
      | (n, c) => c.mismatch (.invalidType (.number n) expected)
    if c.peek = some (some '-') then do judge (← readNumber false c.skip)
    else if (digitOf? c.peek).isSome then do judge (← readNumber true c)
    else refuse expected c
  write n := toString n
  absent := none

def int64 : Codec Int := integer "i64" (leastSigned 64) (greatestSigned 64)

def int32 : Codec Int := integer "i32" (leastSigned 32) (greatestSigned 32)

/-- A codec for a type that is written as another. -/
def Codec.imap {α β : Type} (codec : Codec α) (there : α → β) (back : β → α) : Codec β where
  read c := (codec.read c).map fun (a, c) => (there a, c)
  write b := codec.write (back b)
  absent := codec.absent.map there

def byte : Codec UInt8 :=
  (integer "u8" 0 255).imap (fun n => UInt8.ofNat n.toNat) (fun b => b.toNat)

def count64 : Codec Nat := (integer "u64" 0 (greatestUnsigned 64)).imap Int.toNat Int.ofNat

/-- A value or null; a member that is not there is null. -/
def optional {α : Type} (codec : Codec α) : Codec (Option α) where
  read c :=
    let c := c.skipSpace
    if c.peek = some (some 'n') then (readIdent ['u', 'l', 'l'] c.skip).map (none, ·)
    else (codec.read c).map fun (a, c) => (some a, c)
  write
    | none => "null"
    | some a => codec.write a
  absent := some none

/-! ## Choices -/

/-- The null that stands for what a choice carries. -/
def readUnit : Reader Unit := fun c => do
  let c ← toValue c
  if c.peek = some (some 'n') then (readIdent ['u', 'l', 'l'] c.skip).map ((), ·)
  else refuse "unit" c

/-- A choice by its name, or as an object with the name as its key and null as its value. -/
def choice {α : Type} (choices : List (String × α)) (name : α → String) : Codec α where
  read c := do
    let c ← toValue c
    let readName := readText "variant identifier" (choose choices)
    match c.peek with
    | some (some '"') => readName c
    | some (some '\x7b') => do
        let (a, c) ← readName c.skip
        let c ← readColon c
        let (_, c) ← readUnit c
        let c := c.skipSpace
        match c.peek with
        | some (some '\x7d') => .ok (a, c.skip)
        | some _ => c.fail .expectedValue
        | none => c.fail .endInObject
    | _ => c.failNext .expectedValue
  write a := stringText (name a)
  absent := none

/-! ## Lists and maps -/

/-- The elements of a list up to its bracket, which stays. -/
def readItems {α : Type} (read : Reader α) : Nat → Bool → List α → Reader (List α)
  | 0, _, _, c => c.failNext .endInList
  | fuel + 1, first, items, c => do
      match ← nextElement first c with
      | .close c => .ok (items.reverse, c)
      | .element c =>
          let (item, c) ← read c
          readItems read fuel false (item :: items) c

/-- Go on behind a closing bracket that has to follow. -/
def closing {α : Type} (close : Cursor → Cursor × Option Error) (result : α × Cursor) :
    Except Error (α × Cursor) :=
  match close result.2 with
  | (c, none) => .ok (result.1, c)
  | (_, some error) => .error error

def listOf {α : Type} (codec : Codec α) : Codec (List α) where
  read c := do
    let c ← toValue c
    if c.peek = some (some '[') then do
      closing endList (← readItems codec.read (c.rest.length + 1) true [] c.skip)
    else refuse "a sequence" c
  write items := arrayText (items.map codec.write)
  absent := none

/-- The entries of a map up to its brace, which stays. -/
def readEntries {α : Type} (read : Reader α) : Nat → Bool → Keyed α → Reader (Keyed α)
  | 0, _, _, c => c.failNext .endInObject
  | fuel + 1, first, entries, c => do
      match ← nextKey first c with
      | .close c => .ok (entries, c)
      | .element c =>
          let (key, c) ← readString c
          let c ← readColon c
          let (a, c) ← read c
          readEntries read fuel false (Keyed.put key a entries) c

/-- A map with text keys, kept and written in key order. -/
def mapOf {α : Type} (codec : Codec α) : Codec (Keyed α) where
  read c := do
    let c ← toValue c
    if c.peek = some (some '\x7b') then do
      closing endObject (← readEntries codec.read (c.rest.length + 1) true [] c.skip)
    else refuse "a map" c
  write entries := objectText (entries.map fun (key, a) => (key, codec.write a))
  absent := none

/-! ## Documents -/

/-- Read a document that is one value of the codec's type. -/
def Codec.decode {α : Type} (codec : Codec α) (document : List Text.Symbol) : Except Error α := do
  endDocument (← codec.read (Cursor.ofSymbols document))

end DurableJobs.Json
