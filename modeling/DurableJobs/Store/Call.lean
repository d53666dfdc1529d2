import DurableJobs.Store.Tables

/-!
# Calls to the store

A call is a sequence of statements. The database may fail any of them, so a call runs against a
`Session`: the tables, and what the database will answer to the statements to come. A failed statement
changes nothing. Outside a transaction the statements before it stay done; `transaction` undoes them,
and counts its beginning and its commit as statements that may fail as well. A body that finds itself
without its row gives up in so many words (`giveUp`), which is one more statement.
-/

set_option autoImplicit false

namespace DurableJobs

inductive StoreError where
  /-- The database failed a statement, a table is not there, or a row cannot be read. -/
  | database
  | notFound
  | duplicate (key : String)
  /-- A threshold lies outside the years the calendar covers; nothing has been asked of the database. -/
  | calendarOverflow
  deriving DecidableEq, Repr

namespace StoreError

/-- The text of an error that has a fixed one. -/
def message? : StoreError → Option String
  | .notFound => some "Record not found"
  | .duplicate key => some ("Duplicate idempotency key: " ++ key)
  | .database | .calendarOverflow => none

end StoreError

namespace Store

/-- The tables and the fate of the statements to come: `true` fails one, and none is failed after the
end of the list. -/
structure Session where
  tables : Tables
  faults : List Bool
  deriving Repr

abbrev Call := ExceptT StoreError (StateM Session)

/-- Run a call: its answer, the tables behind it and the faults that are left. -/
def Call.execute {α : Type} (call : Call α) (session : Session) : Except StoreError α × Session :=
  ExceptT.run call session

/-- Run a call that no statement of fails. -/
def Call.perform {α : Type} (call : Call α) (tables : Tables) : Except StoreError α × Tables :=
  let (answer, session) := call.execute ⟨tables, []⟩
  (answer, session.tables)

/-- One statement on a table: what it does to the tables, unless it is failed. -/
def statement {α : Type} (table : Table) (run : Tables → Except StoreError (α × Tables)) : Call α :=
  ExceptT.mk fun session =>
    let left := session.faults.tail
    if session.faults.headD false || !session.tables.has table then
      (.error .database, ⟨session.tables, left⟩)
    else
      match run session.tables with
      | .ok (answer, tables) => (.ok answer, ⟨tables, left⟩)
      | .error error => (.error error, ⟨session.tables, left⟩)

/-- A statement that only the connection can fail: the beginning of a transaction, its commit, and giving
it up. -/
def handshake : Call Unit :=
  ExceptT.mk fun session =>
    if session.faults.headD false then (.error .database, ⟨session.tables, session.faults.tail⟩)
    else (.ok (), ⟨session.tables, session.faults.tail⟩)

/-- Run a call so that all it does is kept, or nothing. -/
def transaction {α : Type} (body : Call α) : Call α :=
  ExceptT.mk fun session =>
    let attempt : Call α := do
      handshake
      let answer ← body
      handshake
      return answer
    match attempt.execute session with
    | (.ok answer, after) => (.ok answer, after)
    | (.error error, after) => (.error error, ⟨session.tables, after.faults⟩)

/-- Give up the transaction that this is the body of. An error of the connection comes before the one that
is given. -/
def giveUp {α : Type} (error : StoreError) : Call α := do
  handshake
  throw error

/-- Turn rows into jobs; an unreadable row is an error after the fact. -/
def readRow (row : Row) : Call Job :=
  match row.read? with
  | some job => return job
  | none => throw .database

end Store

end DurableJobs
