import DurableJobs.Processor.Task

/-!
# Settings

What an operator can set, section by section, as it stands in the configuration: plain counts of
milliseconds, seconds, hours and days. The second half turns them into what the parts of the system
work with. All of that is total but for the ages of dead letters: hours and days of 64 bits can be more
than a span of time can hold, and then there is no policy.
-/

set_option autoImplicit false

namespace DurableJobs

open DurableJobs.Admission (Profile)

structure DatabaseSettings where
  url : String
  maxConnections : Option UInt32
  minConnections : Option UInt32
  /-- In seconds. -/
  connectTimeout : Option UInt64
  idleTimeout : Option UInt64
  deriving DecidableEq, Repr

structure WorkerSettings where
  pollIntervalMillis : UInt64
  /-- How many jobs are claimed at one wake-up at most. -/
  claimBatchSize : UInt64
  zombieTimeoutSeconds : UInt64
  /-- Zero for a pass at the start only. -/
  reaperIntervalSeconds : UInt64
  shutdownTimeoutSeconds : UInt64
  deriving DecidableEq, Repr

structure BackoffSettings where
  baseDelayMillis : UInt64
  maxDelayMillis : UInt64
  strategy : Backoff.Strategy
  deriving DecidableEq, Repr

structure DeadLetterSettings where
  maxAttempts : Int32
  staleAfterHours : Int64
  retentionDays : Int64
  cleanupIntervalSeconds : UInt64
  deriving DecidableEq, Repr

structure RateLimitSettings where
  /-- Profiles by job type, in place of the built-in ones. -/
  overrides : Keyed Profile
  /-- For the types without a profile of their own. -/
  fallback : Profile
  deriving DecidableEq, Repr

def RateLimitSettings.standard : RateLimitSettings := ⟨[], Profile.fallback⟩

structure MetricsSettings where
  enabled : Bool
  listenAddress : String
  deriving DecidableEq, Repr

structure AppSettings where
  /-- The address that links in mails lead to. -/
  baseUrl : String
  deriving DecidableEq, Repr

structure CompletionSettings where
  apiKey : Option String
  model : String
  apiBaseUrl : String
  timeoutSeconds : UInt64
  deriving DecidableEq, Repr

structure MailSettings where
  /-- Without a key mails are logged and not sent. -/
  apiKey : Option String
  apiBaseUrl : String
  fromEmail : String
  fromName : Option String
  timeoutSeconds : UInt64
  deriving DecidableEq, Repr

structure Settings where
  database : DatabaseSettings
  worker : WorkerSettings
  backoff : BackoffSettings
  deadLetters : DeadLetterSettings
  rateLimits : RateLimitSettings
  metrics : MetricsSettings
  app : AppSettings
  completion : CompletionSettings
  mail : MailSettings
  deriving DecidableEq, Repr

/-- The profiles of all types that have one. -/
def RateLimitSettings.profiles (settings : RateLimitSettings) : Keyed Profile :=
  Keyed.ofList (Profile.standard ++ settings.overrides)

namespace Settings

variable (settings : Settings)

/-- Shorter waits than a millisecond are not asked for. -/
def pollInterval : Span := Span.ofMillis (max settings.worker.pollIntervalMillis.toNat 1)

def claimBatchSize : Nat := max settings.worker.claimBatchSize.toNat 1

def backoffDelays : Backoff :=
  ⟨Span.ofMillis settings.backoff.baseDelayMillis.toNat,
   Span.ofMillis settings.backoff.maxDelayMillis.toNat⟩

/-- The greatest whole number of seconds, of either sign, that an age can have. -/
def greatestAgeSeconds : Int := 9223372036854775

/-- An age of so many units of so many seconds, in nanoseconds, if there is one. -/
def age? (count unitSeconds : Int) : Option Int :=
  let seconds := count * unitSeconds
  if seconds.natAbs ≤ greatestAgeSeconds then some (seconds * 1000000000) else none

/-- The policy for dead letters, unless one of its ages is more than an age can be. -/
def deadLetterPolicy? : Option DeadLetterPolicy := do
  let staleAfter ← age? settings.deadLetters.staleAfterHours.toInt 3600
  let retention ← age? settings.deadLetters.retentionDays.toInt 86400
  return ⟨max settings.deadLetters.maxAttempts.toInt 1, staleAfter, retention⟩

def processorConfig? : Option ProcessorConfig :=
  settings.deadLetterPolicy?.map fun policy =>
    ⟨settings.pollInterval, settings.claimBatchSize, settings.backoffDelays,
     settings.backoff.strategy, policy⟩

def zombieTimeout : Span := Span.ofSeconds settings.worker.zombieTimeoutSeconds.toNat

/-- How often lost jobs are looked for after the start, if at all. -/
def reaperInterval? : Option Span :=
  let seconds := settings.worker.reaperIntervalSeconds.toNat
  if 0 < seconds then some (Span.ofSeconds seconds) else none

def cleanupInterval : Span := Span.ofSeconds (max settings.deadLetters.cleanupIntervalSeconds.toNat 1)

def shutdownTimeout : Span := Span.ofSeconds settings.worker.shutdownTimeoutSeconds.toNat

end Settings

end DurableJobs
