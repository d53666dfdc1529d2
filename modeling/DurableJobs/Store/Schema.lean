import DurableJobs.Store.Tables

/-!
# Schema and migrations

Each migration makes one table with its indexes, and taking it back drops the table with its rows and
forgets which ids it has handed out.
-/

set_option autoImplicit false

namespace DurableJobs.Store

structure Column where
  name : String
  required : Bool
  default : Option String
  primaryKey : Bool
  deriving DecidableEq, Repr

structure Index where
  name : String
  columns : List String
  deriving DecidableEq, Repr

structure Migration where
  name : String
  table : String
  columns : List Column
  indexes : List Index
  deriving DecidableEq, Repr

namespace Schema

def key (name : String) : Column := ⟨name, true, none, true⟩

def required (name : String) : Column := ⟨name, true, none, false⟩

def optional (name : String) : Column := ⟨name, false, none, false⟩

def defaulted (name default : String) : Column := ⟨name, true, some default, false⟩

def createJobs : Migration where
  name := "m20250301_000001_create_jobs"
  table := "jobs"
  columns :=
    [key "id", optional "tenant_id", required "job_type", required "payload",
     defaulted "status" "'pending'", optional "idempotency_key", defaulted "attempt_count" "0",
     defaulted "max_attempts" "5", optional "last_error", required "run_at",
     optional "started_at", optional "completed_at", required "created_at", required "updated_at"]
  indexes :=
    [⟨"idx_jobs_status_run_at", ["status", "run_at"]⟩,
     ⟨"idx_jobs_idempotency_key", ["idempotency_key"]⟩]

def createLedger : Migration where
  name := "m20250301_000002_create_processed_jobs"
  table := "processed_jobs"
  columns := [key "job_id", required "processed_at"]
  indexes := []

def createDeadLetters : Migration where
  name := "m20250301_000003_create_dead_letter_jobs"
  table := "dead_letter_jobs"
  columns :=
    [key "id", required "original_job_id", optional "tenant_id", required "job_type",
     required "payload", defaulted "attempt_count" "0", optional "last_error",
     required "failed_at", required "archived_at"]
  indexes :=
    [⟨"idx_dead_letter_jobs_archived_at", ["archived_at"]⟩,
     ⟨"idx_dead_letter_jobs_job_type", ["job_type"]⟩]

/-- All migrations, in the order in which they are applied. -/
def migrations : List Migration := [createJobs, createLedger, createDeadLetters]

def applied (tables : Tables) : List Migration := migrations.take tables.migrated

def pending (tables : Tables) : List Migration := migrations.drop tables.migrated

/-- The indexes that are there with the table of each, by name. -/
def indexes (tables : Tables) : List (Index × Migration) :=
  ((applied tables).flatMap fun migration => migration.indexes.map (·, migration)).mergeSort
    fun a b => !decide (b.1.name < a.1.name)

/-- The tables that are there, by name. -/
def present (tables : Tables) : List Migration :=
  (applied tables).mergeSort fun a b => !decide (b.table < a.table)

end Schema

namespace Tables

/-- Apply the next migrations, all that are left when no number is given. -/
def migrateUp (tables : Tables) (steps : Option Nat) : Tables :=
  { tables with
    migrated := Nat.min 3 (match steps with
      | some n => tables.migrated + n
      | none => 3) }

/-- Drop the rows of the tables that are not there. -/
def dropAbsent (tables : Tables) : Tables :=
  { tables with
    jobs := if tables.has .jobs then tables.jobs else []
    lastJobId := if tables.has .jobs then tables.lastJobId else 0
    ledger := if tables.has .ledger then tables.ledger else []
    deadLetters := if tables.has .deadLetters then tables.deadLetters else []
    lastDeadLetterId := if tables.has .deadLetters then tables.lastDeadLetterId else 0 }

/-- Take back the last migrations, all of them when no number is given. -/
def migrateDown (tables : Tables) (steps : Option Nat) : Tables :=
  dropAbsent
    { tables with
      migrated := match steps with
        | some n => tables.migrated - n
        | none => 0 }

end Tables

end DurableJobs.Store
