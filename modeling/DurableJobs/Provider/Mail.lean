import DurableJobs.Http.Exchange
import DurableJobs.Json.Value
import DurableJobs.Settings.Basic

/-!
# The mail provider

Mails are delivered by posting them to a provider. When the provider limits its callers, the message of
the error says so by code and passes on when to come back, in words that retrying looks for; what stands
in the body of such a response is left out, so nothing in it can be taken for such a hint.
-/

set_option autoImplicit false

namespace DurableJobs

structure MailProvider where
  apiKey : String
  baseUrl : String
  /-- Whom mails are from: an address, or a name with the address in angle brackets. -/
  sender : String
  deriving DecidableEq, Repr

namespace MailProvider

/-- The provider that the settings name, if they have a key for it. -/
def ofSettings? (settings : MailSettings) : Option MailProvider :=
  (settings.apiKey.filter fun key => !key.isEmpty).map fun key =>
    let sender :=
      match settings.fromName.filter fun name => !name.isEmpty with
      | some name => name ++ " <" ++ settings.fromEmail ++ ">"
      | none => settings.fromEmail
    ⟨key, settings.apiBaseUrl, sender⟩

/-- A base without its slashes at the end, and a path below it. -/
def endpoint (base path : String) : String :=
  String.ofList (Url.dropSlashes base.toList) ++ path

/-- The document that asks for a mail to be delivered. -/
def document (provider : MailProvider) (mail : Mail) : String :=
  Json.objectText
    [("from", Json.stringText provider.sender), ("to", Json.stringText mail.recipient),
     ("subject", Json.stringText mail.subject), ("html", Json.stringText mail.body)]

/-- What a response other than a success means. -/
def refusal (response : Http.Response) : String :=
  if response.status = Http.Response.tooManyRequests then
    let hint :=
      match response.retryAfter? with
      | some text => ", retry-after: " ++ text
      | none => ""
    "mail provider rate limit exceeded (429" ++ hint ++ ")"
  else "Mail delivery failed with status " ++ response.statusText ++ ": " ++ response.text

/-- What a response means. -/
def judge (response : Http.Response) : Except ErrorChain Unit :=
  if response.isSuccess then .ok () else .error [refusal response]

def mailer {σ : Type} (provider : MailProvider) (transport : Http.Transport σ) : Mailer σ :=
  fun mail s =>
    let url := endpoint provider.baseUrl "/emails"
    match Http.post transport url provider.apiKey (provider.document mail) s with
    | (.error error, s) => (.error error.chain, s)
    | (.ok response, s) => (judge response, s)

/-- The mailer that the settings ask for: without a key mails go to the log. -/
def mailerOfSettings {σ : Type} (settings : MailSettings) (transport : Http.Transport σ) : Mailer σ :=
  match ofSettings? settings with
  | some provider => provider.mailer transport
  | none => logMailer

end MailProvider

end DurableJobs
