import DurableJobs.Config.Reading
import DurableJobs.Config.Source
import DurableJobs.Settings.Basic

/-!
# Loading settings

Settings come in layers: the built-in values, then files, then environment variables, each over what is
below it. Every section is there in the built-in values, so a layer names only what it changes.
-/

set_option autoImplicit false

namespace DurableJobs.Settings

open DurableJobs.Config

/-! ## The built-in layer -/

/-- Values by section and name. -/
def builtinValues : List (String × List (String × Scalar)) := [
  ("database", [("url", .text "sqlite://jobrs.db?mode=rwc"), ("max_connections", .int 10),
    ("min_connections", .int 1), ("connect_timeout", .int 10), ("idle_timeout", .int 300)]),
  ("worker", [("poll_interval_ms", .int 1000), ("claim_batch_size", .int 10),
    ("zombie_timeout_secs", .int 300), ("reaper_interval_secs", .int 0),
    ("shutdown_timeout_secs", .int 30)]),
  ("backoff", [("base_delay_ms", .int 100), ("max_delay_ms", .int 30000),
    ("strategy", .text "full_jitter")]),
  ("dead_letter", [("max_attempts", .int 5), ("stale_after_hours", .int 24),
    ("retention_days", .int 14), ("cleanup_interval_secs", .int 3600)]),
  ("metrics", [("enabled", .bool true), ("listen_addr", .text "0.0.0.0:9000")]),
  ("app", [("base_url", .text "http://localhost:8080")]),
  ("llm", [("model", .text "gpt-3.5-turbo"), ("api_base_url", .text "https://api.openai.com/v1"),
    ("timeout_secs", .int 60)]),
  ("mailer", [("api_base_url", .text "https://api.resend.com"),
    ("from_email", .text "noreply@localhost"), ("timeout_secs", .int 30)])]

def builtin : Config.Value :=
  .table none <| Keyed.ofList <| builtinValues.map fun (name, values) =>
    (name, .table none (Keyed.ofList (values.map fun (key, s) => (key, .scalar none s))))

/-! ## The sections -/

def databaseRecord : Record DatabaseSettings :=
  DatabaseSettings.mk <$> .member "url" text <*> .optionalMember "max_connections" uint32 <*>
    .optionalMember "min_connections" uint32 <*> .optionalMember "connect_timeout" uint64 <*>
    .optionalMember "idle_timeout" uint64

def workerRecord : Record WorkerSettings :=
  WorkerSettings.mk <$> .member "poll_interval_ms" uint64 <*> .member "claim_batch_size" uint64 <*>
    .member "zombie_timeout_secs" uint64 <*> .member "reaper_interval_secs" uint64 <*>
    .member "shutdown_timeout_secs" uint64

def backoffRecord : Record BackoffSettings :=
  BackoffSettings.mk <$> .member "base_delay_ms" uint64 <*> .member "max_delay_ms" uint64 <*>
    .member "strategy" (choice "BackoffStrategy" Backoff.Strategy.ofName?)

def deadLetterRecord : Record DeadLetterSettings :=
  DeadLetterSettings.mk <$> .member "max_attempts" int32 <*> .member "stale_after_hours" int64 <*>
    .member "retention_days" int64 <*> .member "cleanup_interval_secs" uint64

def profileRecord : Record Admission.Profile :=
  Admission.Profile.mk <$> .member "concurrency" natural <*> .member "rate" float <*>
    .member "burst" fun v => UInt32.toNat <$> uint32 v

def profile : Reading Admission.Profile := profileRecord.read "JobRateConfig"

def rateLimitRecord : Record RateLimitSettings :=
  RateLimitSettings.mk <$> .memberOr "overrides" (mapOf profile) [] <*>
    .memberOr "fallback" profile Admission.Profile.fallback

def metricsRecord : Record MetricsSettings :=
  MetricsSettings.mk <$> .member "enabled" boolean <*> .member "listen_addr" text

def appRecord : Record AppSettings := AppSettings.mk <$> .member "base_url" text

def completionRecord : Record CompletionSettings :=
  CompletionSettings.mk <$> .optionalMember "api_key" text <*> .member "model" text <*>
    .member "api_base_url" text <*> .member "timeout_secs" uint64

def mailRecord : Record MailSettings :=
  MailSettings.mk <$> .optionalMember "api_key" text <*> .member "api_base_url" text <*>
    .member "from_email" text <*> .optionalMember "from_name" text <*>
    .member "timeout_secs" uint64

def record : Record Settings :=
  Settings.mk <$> .member "database" (databaseRecord.read "DatabaseSettings") <*>
    .member "worker" (workerRecord.read "WorkerSettings") <*>
    .member "backoff" (backoffRecord.read "BackoffSettings") <*>
    .member "dead_letter" (deadLetterRecord.read "DeadLetterSettings") <*>
    .memberOr "rate_limits" (rateLimitRecord.read "RateLimitSettings") .standard <*>
    .member "metrics" (metricsRecord.read "MetricsSettings") <*>
    .member "app" (appRecord.read "AppSettings") <*>
    .member "llm" (completionRecord.read "LlmSettings") <*>
    .member "mailer" (mailRecord.read "MailerSettings")

/-! ## Layers -/

/-- Why there are no settings. -/
inductive LoadError where
  | source (error : SourceError)
  | fault (fault : Fault)
  deriving DecidableEq, Repr

def LoadError.message? : LoadError → Option String
  | .source _ => none
  | .fault reason => some reason.message

/-- The settings of layers over the built-in values, the later over the earlier. -/
def ofLayers (layers : List (Keyed Config.Value)) : Except LoadError Settings :=
  (record.read "Settings" (layers.foldl Value.addLayer builtin)).mapError .fault

/-- The settings of one file. -/
def ofFile (files : Files) (name : String) : Except LoadError Settings := do
  let layer ← (fileLayer files name).mapError .source
  ofLayers [layer]

/-- The name under which environment variables are looked for, in any case. -/
def environmentName : String := "jobrs"

/-- The variable that names the file of the environment. -/
def profileVariable : String := "APP_ENVIRONMENT"

/-- The settings of a running system: the default file, the file of the environment, and the variables. -/
def load (files : Files) (environment : List (String × String)) : Except LoadError Settings := do
  let profile := (environment.lookup profileVariable).getD "default"
  let shared ← (optionalFileLayer files "config/default").mapError .source
  let special ← (optionalFileLayer files ("config/" ++ profile)).mapError .source
  ofLayers [shared, special, environmentLayer environmentName environment]

end DurableJobs.Settings
