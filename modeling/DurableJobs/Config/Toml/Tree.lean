import DurableJobs.Json.Value

/-!
# The tables of a TOML document

A document sets its values one by one, and a table may be opened, named on the way to another, or made
by a dotted key. A table can be defined once only, so the tree under construction remembers how each of
its tables came to be; a list of tables grows at its end. Values are closed: nothing goes into them.
-/

set_option autoImplicit false

namespace DurableJobs.Config.Toml

/-- How a table came to be. -/
inductive Making where
  /-- Opened by a header of its own. -/
  | opened
  /-- Named on the way to another table. -/
  | passed
  /-- Made by a dotted key. -/
  | dotted
  deriving DecidableEq, Repr

inductive Node where
  | value (v : Json.Value)
  | table (making : Making) (entries : List (String × Node))
  /-- A list of tables. -/
  | tables (items : List (List (String × Node)))
  deriving Inhabited

abbrev Entries := Keyed Node

namespace Entries

/-- Go down a path of tables and change what is in the last. Tables that are missing are made; in a list
of tables the last counts. A dotted key goes through no table that has a header of its own. -/
def change (byDots : Bool) (f : Making → Entries → Option Entries) :
    List String → Making → Entries → Option Entries
  | [], making, entries => f making entries
  | name :: path, _, entries => do
      let node ←
        match (entries.lookup name : Option Node) with
        | none =>
            let making := if byDots then .dotted else .passed
            (change byDots f path making []).map (Node.table making)
        | some (.table making inner) =>
            if byDots && making == .opened then none
            else (change byDots f path making inner).map (Node.table making)
        | some (.tables items) => do
            let last ← items.getLast?
            let last ← change byDots f path .opened last
            some (.tables (items.dropLast ++ [last]))
        | some (.value _) => none
      some (Keyed.put name node entries)

/-- Put a node under a name that is free. -/
def add (name : String) (node : Node) (entries : Entries) : Option Entries :=
  if (entries.lookup name).isSome then none else some (Keyed.put name node entries)

/-- The path in front of a key's last name, and that name. -/
def cutKey (key : List String) : Option (List String × String) :=
  key.getLast?.map fun last => (key.dropLast, last)

/-- Set a key, dotted or not, in the table at a path. A dotted key adds only to tables that dotted keys
made. -/
def set (table key : List String) (v : Json.Value) (entries : Entries) : Option Entries := do
  let (path, name) ← cutKey key
  let addValue (making : Making) (inner : Entries) : Option Entries :=
    if (making == .dotted) == path.isEmpty then none else inner.add name (.value v)
  let addBelow (_ : Making) (inner : Entries) : Option Entries :=
    inner.change true addValue path .opened
  entries.change false addBelow table .opened

/-- Open the table of a header. -/
def openTable (key : List String) (entries : Entries) : Option Entries := do
  let (path, name) ← cutKey key
  let enter (_ : Making) (inner : Entries) : Option Entries :=
    match (inner.lookup name : Option Node) with
    | none => some (Keyed.put name (.table .opened []) inner)
    | some (.table .passed there) => some (Keyed.put name (.table .opened there) inner)
    | _ => none
  entries.change false enter path .opened

/-- Begin the next table of a list of tables. -/
def openNext (key : List String) (entries : Entries) : Option Entries := do
  let (path, name) ← cutKey key
  let enter (_ : Making) (inner : Entries) : Option Entries :=
    match (inner.lookup name : Option Node) with
    | none => some (Keyed.put name (.tables [[]]) inner)
    | some (.tables items) => some (Keyed.put name (.tables (items ++ [[]])) inner)
    | _ => none
  entries.change false enter path .opened

end Entries

mutual

def Node.document : Node → Json.Value
  | .value v => v
  | .table _ entries => .object (documents entries)
  | .tables items => .array (tableDocuments items)

/-- The members of a table as they are in the end. -/
def documents : List (String × Node) → List (String × Json.Value)
  | [] => []
  | (name, node) :: entries => (name, node.document) :: documents entries

def tableDocuments : List (List (String × Node)) → List Json.Value
  | [] => []
  | entries :: items => .object (documents entries) :: tableDocuments items

end

end DurableJobs.Config.Toml
