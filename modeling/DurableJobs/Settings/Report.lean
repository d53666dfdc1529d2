import DurableJobs.Settings.Basic
import DurableJobs.Json.Value

/-!
# A report of settings

The settings in force, and what follows from them, as a document. How spans and fractions are written
is up to whoever reads the report.
-/

set_option autoImplicit false

namespace DurableJobs.Settings

open DurableJobs.Json (Value)

/-- How the values without parts are written. -/
structure ReportStyle where
  span : Int → Value
  float : Binary64 → Value

namespace ReportStyle

variable (style : ReportStyle)

def object (members : List (String × Value)) : Value := Value.ofMembers members

def text? : Option String → Value
  | some s => .string s
  | none => .null

def count? : Option Nat → Value
  | some n => .nat n
  | none => .null

def spanOf (span : Span) : Value := style.span span.nanos

def profile (p : Admission.Profile) : Value :=
  object [("concurrency", .nat p.concurrency), ("rate", style.float p.rate), ("burst", .nat p.burst)]

def profiles (entries : Keyed Admission.Profile) : Value :=
  .object (entries.map fun (jobType, p) => (jobType, style.profile p))

def database (s : DatabaseSettings) : Value :=
  object [("url", .string s.url), ("max_connections", count? (s.maxConnections.map (·.toNat))),
    ("min_connections", count? (s.minConnections.map (·.toNat))),
    ("connect_timeout", count? (s.connectTimeout.map (·.toNat))),
    ("idle_timeout", count? (s.idleTimeout.map (·.toNat)))]

def worker (s : WorkerSettings) : Value :=
  object [("poll_interval_ms", .nat s.pollIntervalMillis.toNat),
    ("claim_batch_size", .nat s.claimBatchSize.toNat),
    ("zombie_timeout_secs", .nat s.zombieTimeoutSeconds.toNat),
    ("reaper_interval_secs", .nat s.reaperIntervalSeconds.toNat),
    ("shutdown_timeout_secs", .nat s.shutdownTimeoutSeconds.toNat)]

def backoff (s : BackoffSettings) : Value :=
  object [("base_delay_ms", .nat s.baseDelayMillis.toNat),
    ("max_delay_ms", .nat s.maxDelayMillis.toNat), ("strategy", .string s.strategy.name)]

def deadLetters (s : DeadLetterSettings) : Value :=
  object [("max_attempts", .int s.maxAttempts.toInt),
    ("stale_after_hours", .int s.staleAfterHours.toInt),
    ("retention_days", .int s.retentionDays.toInt),
    ("cleanup_interval_secs", .nat s.cleanupIntervalSeconds.toNat)]

def rateLimits (s : RateLimitSettings) : Value :=
  object [("overrides", style.profiles s.overrides), ("fallback", style.profile s.fallback),
    ("profiles", style.profiles s.profiles)]

def metrics (s : MetricsSettings) : Value :=
  object [("enabled", .bool s.enabled), ("listen_addr", .string s.listenAddress)]

def completion (s : CompletionSettings) : Value :=
  object [("api_key", text? s.apiKey), ("model", .string s.model),
    ("api_base_url", .string s.apiBaseUrl), ("timeout_secs", .nat s.timeoutSeconds.toNat)]

def mail (s : MailSettings) : Value :=
  object [("api_key", text? s.apiKey), ("api_base_url", .string s.apiBaseUrl),
    ("from_email", .string s.fromEmail), ("from_name", text? s.fromName),
    ("timeout_secs", .nat s.timeoutSeconds.toNat)]

/-! ## What follows -/

def delays (b : Backoff) : List (String × Value) :=
  [("base", style.spanOf b.base), ("max", style.spanOf b.cap)]

def policy (p : DeadLetterPolicy) : Value :=
  object [("max_attempts", .int p.maxAttempts), ("stale_after", style.span p.staleAfter),
    ("retention", style.span p.retention)]

/-- What the parts of the system work with. A policy that does not exist is `refused`. -/
def derived (refused : Value) (s : Settings) : Value :=
  object [("backoff", object (style.delays s.backoffDelays)),
    ("processor", object ([("poll_interval", style.spanOf s.pollInterval),
      ("claim_batch_size", .nat s.claimBatchSize),
      ("strategy", .string s.backoff.strategy.name)] ++ style.delays s.backoffDelays)),
    ("dead_letter", match s.deadLetterPolicy? with
      | some p => style.policy p
      | none => refused),
    ("zombie_timeout", style.spanOf s.zombieTimeout),
    ("reaper_interval", match s.reaperInterval? with
      | some span => style.spanOf span
      | none => .null),
    ("cleanup_interval", style.spanOf s.cleanupInterval),
    ("shutdown_timeout", style.spanOf s.shutdownTimeout)]

end ReportStyle

/-- Every section and what follows from them. -/
def report (style : ReportStyle) (refused : Value) (s : Settings) : Value :=
  Value.ofMembers [("database", ReportStyle.database s.database),
    ("worker", ReportStyle.worker s.worker), ("backoff", ReportStyle.backoff s.backoff),
    ("dead_letter", ReportStyle.deadLetters s.deadLetters),
    ("rate_limits", style.rateLimits s.rateLimits), ("metrics", ReportStyle.metrics s.metrics),
    ("app", Value.ofMembers [("base_url", .string s.app.baseUrl)]),
    ("llm", ReportStyle.completion s.completion), ("mailer", ReportStyle.mail s.mail),
    ("derived", style.derived refused s)]

end DurableJobs.Settings
