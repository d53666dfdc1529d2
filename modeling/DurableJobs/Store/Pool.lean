import DurableJobs.Numeric.Width
import DurableJobs.Settings.Basic
import DurableJobs.Text.Utf8
import DurableJobs.Url.Form
import DurableJobs.Url.Parser

/-!
# The pool of database connections

A pool is opened at an address, which names a database file or a database in memory. A database in
memory lives as long as its one connection, so the pool around it holds exactly one. Opening a pool opens
a connection, and fails if the address is wrong, the file cannot be opened or no connection may be had in
time.
-/

set_option autoImplicit false

namespace DurableJobs.Store

/-- A pool and its limits. -/
structure Pool where
  maxConnections : Nat
  minConnections : Nat
  /-- How long a caller waits for a connection. -/
  acquireTimeout : Span
  /-- How long a connection may be unused, and how long it may live. -/
  idleTimeout : Span
  maxLifetime : Span
  deriving DecidableEq, Repr

namespace Pool

/-- Why no pool is opened. -/
inductive OpenError where
  | database
  /-- The time to wait for a connection ends beyond all times. -/
  | clockOverflow
  deriving DecidableEq, Repr

/-! ## Addresses -/

/-- Where a database is, and how it may be opened. -/
structure Address where
  path : List Char
  inMemory : Bool
  /-- A file that is missing is made, unless reading is all that is asked for. -/
  create : Bool
  readOnly : Bool
  deriving DecidableEq, Repr

/-- A text without every occurrence of a mark at its front. -/
def dropMarks (mark : List Char) : Nat → List Char → List Char
  | 0, cs => cs
  | fuel + 1, cs =>
      if !mark.isEmpty && mark.isPrefixOf cs then dropMarks mark fuel (cs.drop mark.length) else cs

def isTruth (s : String) : Bool := ["true", "1", "false", "0"].contains s

/-- An address with one of its parameters taken in. Unknown ones are refused. -/
def Address.withParameter (address : Address) (name value : String) : Option Address :=
  match name, value with
  | "mode", "ro" => some { address with readOnly := true }
  | "mode", "rw" => some address
  | "mode", "rwc" => some { address with create := true }
  | "mode", "memory" => some { address with inMemory := true }
  | "cache", "private" | "cache", "shared" => some address
  | "immutable", value => if isTruth value then some address else none
  | "vfs", _ => some address
  | _, _ => none

/-- The characters of bytes that are a text. -/
def text? (bytes : List UInt8) : Option (List Char) := (Text.symbolsOfBytes bytes).mapM id

def readableText (bytes : List UInt8) : String := String.ofList (Text.readable bytes)

/-- The address in a text, which is a URL of the scheme `sqlite`. -/
def Address.ofText? (text : String) : Option Address := do
  let url ← (Url.parse text.toList).toOption
  let _ ← if url.scheme = "sqlite".toList then some () else none
  let cs := dropMarks "sqlite:".toList text.length (dropMarks "sqlite://".toList text.length text.toList)
  let (path, parameters) := Text.cutAt '?' cs
  let address : Address ←
    if path = ":memory:".toList then some ⟨path, true, false, false⟩
    else do
      let path ← text? (Url.percentDecode (path.flatMap String.utf8EncodeChar))
      some ⟨path, false, false, false⟩
  (Url.formPairs (parameters.getD [])).foldlM
    (fun address (name, value) => address.withParameter (readableText name) (readableText value))
    address

/-! ## Opening -/

/-- The directory that a path is in, if it names one. -/
def directory? (path : List Char) : Option (List Char) := (Text.cutAtLast? '/' path).map (·.1)

/-- Whether a database can be opened where these directories are and no files. A path that is nothing
means a file for the moment. -/
def Address.opens (address : Address) (directories : List String) : Bool :=
  let isDirectory (cs : List Char) : Bool := directories.contains (String.ofList cs)
  address.inMemory || address.path.isEmpty ||
    (address.create && !address.readOnly && !isDirectory address.path &&
      (directory? address.path).all isDirectory)

/-- Whether the text of an address is taken for that of a database in memory. -/
def namesMemory (text : String) : Bool :=
  let cs := text.toList
  "sqlite".toList.isPrefixOf cs &&
    (Text.occursIn ":memory:".toList cs || Text.occursIn "mode=memory".toList cs)

/-- The limits that settings ask for. One connection is enough if they do not say. -/
def ofSettings (settings : DatabaseSettings) : Pool :=
  let alone := namesMemory settings.url
  let count (given : Option UInt32) (default : Nat) : Nat :=
    if alone then 1 else (given.map (·.toNat)).getD default
  let seconds (given : Option UInt64) (default : Nat) : Span :=
    Span.ofSeconds ((given.map (·.toNat)).getD default)
  { maxConnections := count settings.maxConnections 1
    minConnections := count settings.minConnections 0
    acquireTimeout := seconds settings.connectTimeout 30
    idleTimeout := seconds settings.idleTimeout 600
    maxLifetime := Span.ofSeconds 3600 }

/-- The last second of the clock. -/
def lastSecond : Nat := (greatestSigned 64).toNat

/-- Open a pool where these directories are and no files. -/
def open? (settings : DatabaseSettings) (directories : List String) : Except OpenError Pool :=
  let pool := ofSettings settings
  match Address.ofText? settings.url with
  | none => .error .database
  | some address =>
      if lastSecond * nanosPerSecond ≤ pool.acquireTimeout.nanos then .error .clockOverflow
      else if address.opens directories && 0 < pool.maxConnections && 0 < pool.acquireTimeout.nanos then
        .ok pool
      else .error .database

end Pool

end DurableJobs.Store
