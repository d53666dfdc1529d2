import DurableJobs.Job
import DurableJobs.Json.Record
import DurableJobs.Time.Rfc3339

/-!
# Jobs as documents

Jobs, dead letters and their statistics as JSON. Times keep the offset they were written at, and a
payload is a list of bytes.
-/

set_option autoImplicit false

namespace DurableJobs

open DurableJobs.Json

/-- A time, written as RFC 3339 says. -/
def timestampCodec : Codec Timestamp where
  read := readText "an RFC 3339 formatted date and time string" fun s =>
    (Rfc3339.parse s).mapError fun flaw => .custom flaw.text
  write t := stringText (String.ofList (Rfc3339.document t))
  absent := none

def Status.choices : List (String × Status) := Status.all.map fun status => (status.name, status)

def BuiltinType.choices : List (String × BuiltinType) :=
  BuiltinType.all.map fun type => (type.name, type)

def Status.codec : Codec Status := choice Status.choices Status.name

/-! ## Jobs -/

abbrev JobDocument := JobOf Timestamp

def JobDocument.fields : List Field :=
  [field "id" int64, field "tenant_id" (optional text), field "job_type" text,
   field "payload" (listOf byte), field "status" Status.codec,
   field "idempotency_key" (optional text), field "attempt_count" int32,
   field "max_attempts" int32, field "last_error" (optional text), field "run_at" timestampCodec,
   field "started_at" (optional timestampCodec), field "completed_at" (optional timestampCodec),
   field "created_at" timestampCodec, field "updated_at" timestampCodec]

def JobDocument.ofRow : Row JobDocument.fields → JobDocument
  | (id, tenantId, jobType, payload, status, idempotencyKey, attemptCount, maxAttempts, lastError,
      runAt, startedAt, completedAt, createdAt, updatedAt, ()) =>
    ⟨id, tenantId, jobType, payload, status, idempotencyKey, attemptCount, maxAttempts, lastError,
      runAt, startedAt, completedAt, createdAt, updatedAt⟩

def JobDocument.toRow (job : JobDocument) : Row JobDocument.fields :=
  (job.id, job.tenantId, job.jobType, job.payload, job.status, job.idempotencyKey,
    job.attemptCount, job.maxAttempts, job.lastError, job.runAt, job.startedAt, job.completedAt,
    job.createdAt, job.updatedAt, ())

def JobDocument.codec : Codec JobDocument :=
  (recordOf "Job" JobDocument.fields).imap JobDocument.ofRow JobDocument.toRow

/-! ## Dead letters -/

abbrev DeadLetterDocument := DeadLetterOf Timestamp

def DeadLetterDocument.fields : List Field :=
  [field "id" int64, field "original_job_id" int64, field "tenant_id" (optional text),
   field "job_type" text, field "payload" (listOf byte), field "attempt_count" int32,
   field "last_error" (optional text), field "failed_at" timestampCodec,
   field "archived_at" timestampCodec]

def DeadLetterDocument.ofRow : Row DeadLetterDocument.fields → DeadLetterDocument
  | (id, originalJobId, tenantId, jobType, payload, attemptCount, lastError, failedAt, archivedAt,
      ()) =>
    ⟨id, originalJobId, tenantId, jobType, payload, attemptCount, lastError, failedAt, archivedAt⟩

def DeadLetterDocument.toRow (letter : DeadLetterDocument) : Row DeadLetterDocument.fields :=
  (letter.id, letter.originalJobId, letter.tenantId, letter.jobType, letter.payload,
    letter.attemptCount, letter.lastError, letter.failedAt, letter.archivedAt, ())

def DeadLetterDocument.codec : Codec DeadLetterDocument :=
  (recordOf "DeadLetterJob" DeadLetterDocument.fields).imap
    DeadLetterDocument.ofRow DeadLetterDocument.toRow

/-! ## Statistics -/

def DeadLetterStats.fields : List Field :=
  [field "total" count64, field "by_type" (mapOf count64)]

def DeadLetterStats.ofRow : Row DeadLetterStats.fields → DeadLetterStats
  | (total, byType, ()) => ⟨total, byType⟩

def DeadLetterStats.toRow (stats : DeadLetterStats) : Row DeadLetterStats.fields :=
  (stats.total, stats.byType, ())

def DeadLetterStats.codec : Codec DeadLetterStats :=
  (recordOf "DeadLetterStats" DeadLetterStats.fields).imap
    DeadLetterStats.ofRow DeadLetterStats.toRow

end DurableJobs
