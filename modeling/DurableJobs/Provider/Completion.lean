import DurableJobs.Json.Access
import DurableJobs.Json.Parser
import DurableJobs.Numeric.Width
import DurableJobs.Provider.Mail

/-!
# The completion provider

A prompt is answered by posting it to a model. A long prompt is cut. A response other than a success is
told in full, with the server's own hint on when to come back in front of the body, so that it is the
first one found.
-/

set_option autoImplicit false

namespace DurableJobs

structure CompletionProvider where
  apiKey : Option String
  model : String
  baseUrl : String
  deriving DecidableEq, Repr

namespace CompletionProvider

def ofSettings (settings : CompletionSettings) : CompletionProvider :=
  ⟨settings.apiKey, settings.model, settings.apiBaseUrl⟩

/-- How many characters of a prompt are sent. -/
def promptLimit : Nat := 10000

open Json (Value)

/-- The document that asks for a completion. -/
def document (provider : CompletionProvider) (prompt : String) : String :=
  let content := String.ofList (prompt.toList.take promptLimit)
  let message := Value.ofMembers [("role", .string "user"), ("content", .string content)]
  (Value.ofMembers [("model", .string provider.model), ("messages", .array [message])]).text

/-! ## Responses -/

/-- What a response other than a success means. -/
def refusal (response : Http.Response) : String :=
  let hint :=
    match response.retryAfter? with
    | some text => " (retry-after: " ++ text ++ ")"
    | none => ""
  "LLM API returned error: " ++ response.statusText ++ hint ++ " - " ++ response.text

/-- A count of tokens, in 32 bits; what is no count is zero. -/
def tokenCount (usage : Value) (key : String) : Nat :=
  match (usage.member key).int? with
  | some n => if 0 ≤ n then n.toNat % countOfBits 32 else 0
  | none => 0

/-- The text of the first choice. -/
def content? (body : Value) : Option String :=
  (((((body.member "choices").items.head?).getD .null).member "message").member "content").text?

def completion (body : Value) : Except ErrorChain Completion :=
  let usage := body.member "usage"
  match content? body with
  | some content =>
      .ok
        { text := String.ofList (Text.trim content.toList)
          promptTokens := tokenCount usage "prompt_tokens"
          completionTokens := tokenCount usage "completion_tokens"
          totalTokens := tokenCount usage "total_tokens" }
  | none => .error ["Invalid response format from LLM API"]

/-- What a response means. -/
def judge (response : Http.Response) : Except ErrorChain Completion :=
  if response.isSuccess then
    match Json.parseSymbols (Text.symbolsOfBytes response.body) with
    | .ok body => completion body
    | .error error =>
        .error ["Failed to parse LLM API response", "error decoding response body", error.message]
  else .error [refusal response]

def completer {σ : Type} (provider : CompletionProvider) (transport : Http.Transport σ) :
    Completer σ :=
  fun prompt s =>
    match provider.apiKey with
    | none => (.error ["LLM API key not configured"], s)
    | some key =>
        let url := MailProvider.endpoint provider.baseUrl "/chat/completions"
        match Http.post transport url key (provider.document prompt) s with
        | (.error error, s) => (.error ("Failed to send request to LLM API" :: error.chain), s)
        | (.ok response, s) => (judge response, s)

end CompletionProvider

end DurableJobs
