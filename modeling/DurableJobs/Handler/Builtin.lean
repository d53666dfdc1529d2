import DurableJobs.Handler.Collaborators
import DurableJobs.Handler.Payload
import DurableJobs.Handler.Registry
import DurableJobs.Url.Form
import DurableJobs.Url.Parser

/-!
# The built-in handlers

Three handlers send a mail, one completes a prompt, one takes note of a webhook. Each decodes its
payload first, and two make a link of what it holds; only if that succeeds is its collaborator called,
once, and what the collaborator answers is what the handler answers.
-/

set_option autoImplicit false

namespace DurableJobs.Builtin

variable {σ : Type}

/-! ## Mails -/

/-- A mail about a token: where its link leads, its subject and its body around the link. -/
structure TokenMail where
  path : String
  subject : String
  body : String → String

def verification : TokenMail where
  path := "verify-email"
  subject := "Verify your email"
  body link := "Hello,\n\nWelcome! Click the link below to verify your email:\n\n" ++ link

def passwordReset : TokenMail where
  path := "reset-password"
  subject := "Password reset"
  body link :=
    "Hello,\n\nClick the link below to reset your password:\n\n" ++ link ++
      "\n\nThis link expires in 1 hour."

/-- The text of the base without the slashes at its end, then a slash and the mail's path. What the base
ends with is what the path goes to, be it path, query or fragment. -/
def TokenMail.address (mail : TokenMail) (base : Url) : List Char :=
  Url.dropSlashes base.text ++ '/' :: mail.path.toList

/-- The link of a token: the mail's address below the base, read as a URL, with the token as its last
query pair. -/
def tokenLink (base : Url) (mail : TokenMail) (token : String) : Except Failure Url :=
  match Url.parse (mail.address base) with
  | .ok link => .ok (link.withPair "token" token)
  | .error flaw =>
      .error (.rejected ("invalid link base " ++ base.toString ++ ": " ++ flaw.message))

/-- The mail that carries a token to its recipient, if there is a link for it. -/
def TokenMail.compose (mail : TokenMail) (base : Url) (payload : TokenPayload) :
    Except Failure Mail :=
  (tokenLink base mail payload.token).map fun link =>
    ⟨payload.email, mail.subject, mail.body link.toString⟩

/-! ## Handlers -/

/-- The outcome of a collaborator's answer. -/
def outcomeOf {α : Type} : Except ErrorChain α → HandlerOutcome
  | .ok _ => .done
  | .error chain => .failed (.other chain)

/-- A handler that decodes its payload into a request and hands that to a collaborator. -/
def requesting {ρ α : Type} (decode : List UInt8 → Except Failure ρ)
    (serve : ρ → σ → Except ErrorChain α × σ) : Handler σ :=
  Handler.immediate fun _ payload s =>
    match decode payload with
    | .error failure => (.failed failure, s)
    | .ok request =>
        let (answer, s) := serve request s
        (outcomeOf answer, s)

def sendMail (mailer : Mailer σ) : Handler σ :=
  requesting MailPayload.decode fun p => mailer ⟨p.recipient, p.subject, p.body⟩

def sendTokenMail (mailer : Mailer σ) (base : Url) (mail : TokenMail) : Handler σ :=
  requesting (fun payload => TokenPayload.decode payload >>= mail.compose base) mailer

def completePrompt (completer : Completer σ) : Handler σ :=
  requesting PromptPayload.decode fun p => completer p.prompt

def noteWebhook : Handler σ :=
  requesting WebhookPayload.decode fun _ s => (.ok (), s)

/-- The handler of a built-in type. -/
def handler (mailer : Mailer σ) (completer : Completer σ) (base : Url) : BuiltinType → Handler σ
  | .sendEmail => sendMail mailer
  | .sendVerificationEmail => sendTokenMail mailer base verification
  | .sendPasswordResetEmail => sendTokenMail mailer base passwordReset
  | .processAi => completePrompt completer
  | .processWebhook => noteWebhook

/-- The registry of all built-in types. -/
def registry (mailer : Mailer σ) (completer : Completer σ) (base : Url) : Registry σ :=
  BuiltinType.all.foldl
    (fun registry type => registry.register type.name (handler mailer completer base type))
    Registry.empty

end DurableJobs.Builtin
