import DurableJobs.Admission.Bucket
import DurableJobs.Admission.Limiter
import DurableJobs.Admission.Slots
import DurableJobs.Config.Fault
import DurableJobs.Config.Ini
import DurableJobs.Config.Json5
import DurableJobs.Config.KeyPath
import DurableJobs.Config.Reading
import DurableJobs.Config.Ron
import DurableJobs.Config.Source
import DurableJobs.Config.Toml.Document
import DurableJobs.Config.Toml.Quoted
import DurableJobs.Config.Toml.Tree
import DurableJobs.Config.Toml.Word
import DurableJobs.Config.Value
import DurableJobs.Config.Yaml.Document
import DurableJobs.Config.Yaml.Flow
import DurableJobs.Config.Yaml.Scalar
import DurableJobs.DeadLetters
import DurableJobs.Failure
import DurableJobs.Handler.Builtin
import DurableJobs.Handler.Collaborators
import DurableJobs.Handler.MailAddress
import DurableJobs.Handler.Payload
import DurableJobs.Handler.Registry
import DurableJobs.Handler.Rehearsal
import DurableJobs.Http.Exchange
import DurableJobs.Http.Message
import DurableJobs.Idna.Composition
import DurableJobs.Idna.Direction
import DurableJobs.Idna.Domain
import DurableJobs.Idna.Joiner
import DurableJobs.Idna.Mapping
import DurableJobs.Idna.Punycode
import DurableJobs.Idna.Table
import DurableJobs.Job
import DurableJobs.Job.Document
import DurableJobs.Json.Access
import DurableJobs.Json.Choice
import DurableJobs.Json.Codec
import DurableJobs.Json.Cursor
import DurableJobs.Json.Error
import DurableJobs.Json.Parser
import DurableJobs.Json.Record
import DurableJobs.Json.Value
import DurableJobs.Metrics
import DurableJobs.Notify.Channel
import DurableJobs.Numeric.Binary64
import DurableJobs.Numeric.Shortest
import DurableJobs.Numeric.Width
import DurableJobs.Processor.Runtime
import DurableJobs.Processor.Task
import DurableJobs.Producer
import DurableJobs.Proofs.Run
import DurableJobs.Proofs.Store.Execution
import DurableJobs.Proofs.Store.Request
import DurableJobs.Provider.Completion
import DurableJobs.Provider.Mail
import DurableJobs.Retry.Backoff
import DurableJobs.Retry.Hint
import DurableJobs.Settings.Basic
import DurableJobs.Settings.Load
import DurableJobs.Settings.Report
import DurableJobs.Store.Call
import DurableJobs.Store.DeadLetters
import DurableJobs.Store.Jobs
import DurableJobs.Store.Overwrite
import DurableJobs.Store.Pool
import DurableJobs.Store.Schema
import DurableJobs.Store.Tables
import DurableJobs.Text.Blank
import DurableJobs.Text.Decimal
import DurableJobs.Text.Digits
import DurableJobs.Text.Hex
import DurableJobs.Text.Keyed
import DurableJobs.Text.Lower
import DurableJobs.Text.Offset
import DurableJobs.Text.Quoted
import DurableJobs.Text.Ranges
import DurableJobs.Text.Scan
import DurableJobs.Text.Split
import DurableJobs.Text.Utf8
import DurableJobs.Text.Word
import DurableJobs.Time.Calendar
import DurableJobs.Time.Instant
import DurableJobs.Time.Rfc3339
import DurableJobs.Time.Span
import DurableJobs.Url.Address
import DurableJobs.Url.Basic
import DurableJobs.Url.Form
import DurableJobs.Url.Host
import DurableJobs.Url.Join
import DurableJobs.Url.Parser
import DurableJobs.Url.Percent
import DurableJobs.Worker.Reaper
import DurableJobs.Worker.Shutdown
import DurableJobs.Proofs.Store.Change
import DurableJobs.Proofs.Store.Rows
import DurableJobs.Proofs.Store.Claims
import DurableJobs.Proofs.Store.Verdicts
import DurableJobs.Proofs.System.Closed
import DurableJobs.Proofs.System.Dispatch
import DurableJobs.Proofs.System.Provenance
import DurableJobs.Proofs.Store.Whereabouts
import DurableJobs.Proofs.System.Announced
import DurableJobs.Proofs.System.Claims
import DurableJobs.Proofs.System.Attempts
import DurableJobs.Proofs.Time.Span
import DurableJobs.Proofs.Time.Calendar
import DurableJobs.Proofs.Time.StoredOrder
import DurableJobs.Proofs.Time.Delay
import DurableJobs.Proofs.System.PutOff
import DurableJobs.Proofs.Store.AllOrNothing
import DurableJobs.Proofs.Store.Columns
import DurableJobs.Proofs.Store.Frame
import DurableJobs.Proofs.Store.Lineage
import DurableJobs.Proofs.System.Chains
import DurableJobs.Proofs.Time.Age
import DurableJobs.Proofs.Store.Stuck
import DurableJobs.Proofs.System.Exchanges
import DurableJobs.Proofs.System.Abandoned
import DurableJobs.Proofs.Admission.Accounts
import DurableJobs.Proofs.Admission.Desk
import DurableJobs.Proofs.Admission.Slots
import DurableJobs.Proofs.Store.Ledger
import DurableJobs.Proofs.Admission.Bucket
import DurableJobs.Proofs.Admission.Tokens
import DurableJobs.Proofs.Admission.Separation
import DurableJobs.Proofs.Admission.Gate
import DurableJobs.Proofs.System.Results
import DurableJobs.Proofs.System.Counters
import DurableJobs.Proofs.Numeric.WholeNumbers
import DurableJobs.Proofs.Text.Reading
import DurableJobs.Proofs.Retry.Hint
import DurableJobs.Proofs.Provider.RateLimit
import DurableJobs.Proofs.System.Service
import DurableJobs.Proofs.System.WakeUps
import DurableJobs.Proofs.System.AtGate
import DurableJobs.Proofs.System.Endings
import DurableJobs.Proofs.System.Shutdown
import DurableJobs.Proofs.System.Schedule
import DurableJobs.Proofs.Store.ClaimOrder
import DurableJobs.Proofs.Worker.Shutdown
import DurableJobs.Proofs.System.Contacts
import DurableJobs.Proofs.System.Account
import DurableJobs.Proofs.System.Processing
import DurableJobs.Proofs.Json.Tokens
import DurableJobs.Proofs.Json.Codecs
import DurableJobs.Proofs.Json.Records
import DurableJobs.Proofs.Time.Written
import DurableJobs.Proofs.Job.Documents
import DurableJobs.Proofs.Admission.Cancelled
import DurableJobs.Proofs.Admission.Balance
import DurableJobs.Proofs.Store.Keys
import DurableJobs.Proofs.Store.DueOrder
import DurableJobs.Proofs.System.Batch
import DurableJobs.Proofs.System.Failing
import DurableJobs.Proofs.System.Exhaustion
import DurableJobs.Proofs.Retry.Backoff
import DurableJobs.Proofs.Retry.Jitter
import DurableJobs.Proofs.Retry.Marks
import DurableJobs.Proofs.Retry.Classification
import DurableJobs.Proofs.System.HeldBack
import DurableJobs.Proofs.Job.Tenant
import DurableJobs.Proofs.System.Addressed
import DurableJobs.Proofs.Store.Aged
import DurableJobs.Proofs.Worker.Reaper
import DurableJobs.Proofs.Store.InCalendar
import DurableJobs.Proofs.System.Aftermath
import DurableJobs.Proofs.Settings.Limits
import DurableJobs.Proofs.Text.Ascii
import DurableJobs.Proofs.Time.StoredText
import DurableJobs.Proofs.Store.Archive
import DurableJobs.Proofs.Handler.Errands
import DurableJobs.Proofs.Handler.TokenLink
import DurableJobs.Proofs.Text.Pieces
import DurableJobs.Proofs.Text.Utf8
import DurableJobs.Proofs.Idna.Punycode
import DurableJobs.Proofs.Idna.Domain
import DurableJobs.Proofs.Url.Address
import DurableJobs.Proofs.Url.Percent
import DurableJobs.Proofs.Url.Form
import DurableJobs.Proofs.Url.Host
import DurableJobs.Proofs.Url.Parts
import DurableJobs.Proofs.Url.Reread
