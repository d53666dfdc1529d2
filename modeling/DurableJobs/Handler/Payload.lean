import DurableJobs.Failure
import DurableJobs.Handler.MailAddress
import DurableJobs.Json.Record

/-!
# Payloads of the built-in handlers

Each built-in handler takes a JSON document of a fixed shape and asks something of its fields. A payload
that does not decode, or whose fields are not as they should be, is an invalid payload; of the fields
all that are wrong are named, in the order of their names.
-/

set_option autoImplicit false

namespace DurableJobs

open DurableJobs.Json

namespace Payload

/-- What a field may be asked to be. -/
inductive Constraint where
  | mailAddress
  | notEmpty
  deriving DecidableEq, Repr

/-- A field with what is asked of it and what it holds. -/
structure Check where
  field : String
  constraint : Constraint
  value : String
  deriving DecidableEq, Repr

def Check.holds (check : Check) : Bool :=
  match check.constraint with
  | .mailAddress => MailAddress.isValid check.value
  | .notEmpty => !check.value.isEmpty

/-- The line that tells which field is wrong, and how. -/
def Check.text (check : Check) : String :=
  let value := "\"value\": String(" ++ Text.quote check.value ++ ")"
  match check.constraint with
  | .mailAddress => check.field ++ ": Validation error: email [\x7b" ++ value ++ "\x7d]"
  | .notEmpty =>
      check.field ++ ": Validation error: length [\x7b\"min\": Number(1), " ++ value ++ "\x7d]"

/-- Accept a value all of whose checks hold. -/
def validate {α : Type} (checks : α → List Check) (a : α) : Except Failure α :=
  match (checks a).filter fun check => !check.holds with
  | [] => .ok a
  | wrong => .error (.invalidPayload ("\n".intercalate (wrong.map Check.text)))

/-- Decode a payload and validate what it holds. -/
def decode {α : Type} (codec : Codec α) (checks : α → List Check) (payload : List UInt8) :
    Except Failure α :=
  match codec.decode (Text.symbolsOfBytes payload) with
  | .ok a => validate checks a
  | .error e => .error (.invalidPayload e.message)

end Payload

/-! ## Shapes -/

/-- A mail to send as it is. -/
structure MailPayload where
  recipient : String
  subject : String
  body : String
  deriving DecidableEq, Repr

namespace MailPayload

def codec : Codec MailPayload :=
  (recordOf "SendEmailPayload" [field "to" text, field "subject" text, field "body" text]).imap
    (fun (recipient, subject, body, ()) => ⟨recipient, subject, body⟩)
    (fun p => (p.recipient, p.subject, p.body, ()))

def checks (p : MailPayload) : List Payload.Check :=
  [⟨"subject", .notEmpty, p.subject⟩, ⟨"to", .mailAddress, p.recipient⟩]

def decode (payload : List UInt8) : Except Failure MailPayload :=
  Payload.decode codec checks payload

end MailPayload

/-- A token to mail to someone, as a link. -/
structure TokenPayload where
  email : String
  token : String
  deriving DecidableEq, Repr

namespace TokenPayload

def codec : Codec TokenPayload :=
  (recordOf "EmailTokenPayload" [field "email" text, field "token" text]).imap
    (fun (email, token, ()) => ⟨email, token⟩)
    (fun p => (p.email, p.token, ()))

def checks (p : TokenPayload) : List Payload.Check :=
  [⟨"email", .mailAddress, p.email⟩, ⟨"token", .notEmpty, p.token⟩]

def decode (payload : List UInt8) : Except Failure TokenPayload :=
  Payload.decode codec checks payload

end TokenPayload

/-- A prompt to complete. -/
structure PromptPayload where
  prompt : String
  deriving DecidableEq, Repr

namespace PromptPayload

def codec : Codec PromptPayload :=
  (recordOf "ProcessAiPayload" [field "prompt" text]).imap
    (fun (prompt, ()) => ⟨prompt⟩) (fun p => (p.prompt, ()))

def checks (p : PromptPayload) : List Payload.Check := [⟨"prompt", .notEmpty, p.prompt⟩]

def decode (payload : List UInt8) : Except Failure PromptPayload :=
  Payload.decode codec checks payload

end PromptPayload

/-- A webhook that came in. -/
structure WebhookPayload where
  webhookId : Int
  deriving DecidableEq, Repr

namespace WebhookPayload

def codec : Codec WebhookPayload :=
  (recordOf "ProcessWebhookPayload" [field "webhook_id" int64]).imap
    (fun (webhookId, ()) => ⟨webhookId⟩) (fun p => (p.webhookId, ()))

def decode (payload : List UInt8) : Except Failure WebhookPayload :=
  Payload.decode codec (fun _ => []) payload

end WebhookPayload

end DurableJobs
