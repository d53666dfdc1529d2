import DurableJobs.Store.Call
import DurableJobs.Text.Utf8

/-!
# Overwriting columns

An operator's tool: any column of a row can be overwritten by its name, past all the rules that the
other operations keep. A value that a column cannot hold leaves the row as it is.
-/

set_option autoImplicit false

namespace DurableJobs.Store

/-- What a column may be given. -/
inductive Cell where
  | null
  | text (s : String)
  | number (n : Int)
  | time (at_ : Instant)
  deriving DecidableEq, Repr

/-- A row with a column overwritten. -/
def Row.overwrite (row : Row) (column : String) (cell : Cell) : Row :=
  match column, cell with
  | "status", .text s => { row with status := s }
  | "job_type", .text s => { row with jobType := s }
  | "payload", .text s => { row with payload := Text.bytesOfString s }
  | "tenant_id", .text s => { row with tenantId := some s }
  | "tenant_id", .null => { row with tenantId := none }
  | "idempotency_key", .text s => { row with idempotencyKey := some s }
  | "idempotency_key", .null => { row with idempotencyKey := none }
  | "last_error", .text s => { row with lastError := some s }
  | "last_error", .null => { row with lastError := none }
  | "attempt_count", .number n => { row with attemptCount := n }
  | "max_attempts", .number n => { row with maxAttempts := n }
  | "run_at", .time t => { row with runAt := t }
  | "created_at", .time t => { row with createdAt := t }
  | "updated_at", .time t => { row with updatedAt := t }
  | "started_at", .time t => { row with startedAt := some t }
  | "started_at", .null => { row with startedAt := none }
  | "completed_at", .time t => { row with completedAt := some t }
  | "completed_at", .null => { row with completedAt := none }
  | _, _ => row

/-- A dead letter with one of its times overwritten. -/
def overwriteLetter (letter : DeadLetter) (column : String) (cell : Cell) : DeadLetter :=
  match column, cell with
  | "failed_at", .time t => { letter with failedAt := t }
  | "archived_at", .time t => { letter with archivedAt := t }
  | _, _ => letter

/-- Whether a column is one of dead letters. -/
def isLetterColumn (column : String) : Bool := column == "failed_at" || column == "archived_at"

/-- Overwrite a column of the job or dead letter with an id: how many rows there were to change. -/
def overwrite (id : Int) (column : String) (cell : Cell) : Call Nat :=
  if isLetterColumn column then
    statement .deadLetters fun tables =>
      .ok ((tables.deadLetters.filter (·.id == id)).length,
        { tables with
          deadLetters := tables.deadLetters.map fun letter =>
            if letter.id = id then overwriteLetter letter column cell else letter })
  else
    statement .jobs fun tables => .ok (tables.updateJobs (·.id == id) (·.overwrite column cell))

end DurableJobs.Store
