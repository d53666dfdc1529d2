import Mathlib.Data.List.Basic
import DurableJobs.Handler.Builtin
import DurableJobs.Proofs.Retry.Hint
import DurableJobs.Proofs.Text.Ascii
import DurableJobs.Provider.Completion

/-!
# Told when to come back

A provider that limits its callers says in a header when to come back. Each of the two clients writes that
into the message of its error, in words of its own, and the wait before the next try is read off the
message: so the two have to agree on every number, next to a body that may say anything.

They do, since the hint stands in front of the body and ends at a bracket, or the body is left out. What
the number is worth is not up to them: it is read as a binary64 number, which keeps whole numbers up to
`2^53` only.
-/

set_option autoImplicit false

namespace DurableJobs

open Retry (AllDigits hint? rateLimitWait?)

variable {σ : Type}

/-! ## Calls of the providers -/

/-- What is asked of a provider. -/
inductive ProviderCall where
  | mail (provider : MailProvider) (mail : Mail)
  | prompt (provider : CompletionProvider) (prompt : String)

namespace ProviderCall

/-- The response of the provider, if the call gets through to one. -/
def response? (call : ProviderCall) (transport : Http.Transport σ) (s : σ) : Option Http.Response :=
  match call with
  | .mail provider content =>
      let url := MailProvider.endpoint provider.baseUrl "/emails"
      (Http.post transport url provider.apiKey (provider.document content) s).1.toOption
  | .prompt provider content =>
      let url := MailProvider.endpoint provider.baseUrl "/chat/completions"
      provider.apiKey.bind fun key =>
        (Http.post transport url key (provider.document content) s).1.toOption

/-- What comes of the call for the handler that makes it. -/
def outcome (call : ProviderCall) (transport : Http.Transport σ) (s : σ) : HandlerOutcome :=
  match call with
  | .mail provider content => Builtin.outcomeOf (provider.mailer transport content s).1
  | .prompt provider content => Builtin.outcomeOf (provider.completer transport content s).1

/-- What a client says about a response other than a success. -/
def refusal (call : ProviderCall) (response : Http.Response) : String :=
  match call with
  | .mail _ _ => MailProvider.refusal response
  | .prompt _ _ => CompletionProvider.refusal response

theorem outcome_of_response {call : ProviderCall} {transport : Http.Transport σ} {s : σ}
    {response : Http.Response} (h : call.response? transport s = some response)
    (hfails : response.isSuccess = false) :
    call.outcome transport s = .failed (.other [call.refusal response]) := by
  cases call with
  | mail provider content =>
    rw [response?] at h
    rw [outcome]
    delta MailProvider.mailer
    dsimp only
    generalize Http.post transport _ _ _ s = answer at h ⊢
    obtain ⟨_ | answered, after⟩ := answer
    · cases h
    · cases h
      dsimp only
      rw [MailProvider.judge, hfails]
      rfl
  | prompt provider prompt =>
    rw [response?] at h
    obtain ⟨key, hkey, hpost⟩ := Option.bind_eq_some_iff.mp h
    rw [outcome, CompletionProvider.completer]
    dsimp only
    rw [hkey]
    dsimp only
    generalize Http.post transport _ _ _ s = answer at hpost ⊢
    obtain ⟨_ | answered, after⟩ := answer
    · cases hpost
    · cases hpost
      dsimp only
      rw [CompletionProvider.judge, hfails]
      rfl

end ProviderCall

/-! ## The header -/

/-- A number in a header is taken as it stands. -/
theorem text?_of_digits {header : Http.Header} {v : String} (hdigits : AllDigits v.toList)
    (hvalue : header.value = Text.bytesOfString v) : header.text? = some v := by
  have hascii : Text.IsAscii v.toList := fun c hc =>
    Nat.lt_of_le_of_lt (Char.isDigit_iff_toNat.mp (hdigits.2 c hc)).2 (by decide)
  have hbytes : header.value = v.toList.map Text.byteOf := hvalue.trans hascii.utf8
  have hvisible : (header.value.all fun b => b == 9 || (32 ≤ b && b < 127)) = true := by
    rw [hbytes, List.all_map, List.all_eq_true]
    intro c hc
    obtain ⟨hlow, hhigh⟩ := Char.isDigit_iff_toNat.mp (hdigits.2 c hc)
    simp only [Function.comp_apply, Bool.or_eq_true, Bool.and_eq_true, decide_eq_true_eq,
      UInt8.le_iff_toNat_le, UInt8.lt_iff_toNat_lt, Text.byteOf_toNat (hascii c hc)]
    exact Or.inr ⟨Nat.le_trans (by decide) hlow, Nat.lt_of_le_of_lt hhigh (by decide)⟩
  have hread : (header.value.map fun b => Char.ofNat b.toNat) = v.toList := by
    rw [hbytes, List.map_map]
    refine (List.map_congr_left fun c hc => ?_).trans (List.map_id v.toList)
    rw [Function.comp_apply, Text.ofNat_byteOf (hascii c hc), id]
  rw [Http.Header.text?, if_pos hvisible, hread, String.ofList_toList]

/-! ## What the messages say -/

namespace ProviderCall

/-- What stands in front of a hint in the message of a client. -/
def front : ProviderCall → String
  | .mail _ _ => "mail provider rate limit exceeded (429, "
  | .prompt _ _ => "LLM API returned error: 429 Too Many Requests ("

theorem front_silent (call : ProviderCall) : Retry.silent call.front.toList = true := by
  cases call with
  | mail => exact (by decide : Retry.silent "mail provider rate limit exceeded (429, ".toList = true)
  | prompt =>
    exact (by decide : Retry.silent "LLM API returned error: 429 Too Many Requests (".toList = true)

theorem statusText_of_429 {response : Http.Response} (hstatus : response.status = 429) :
    response.statusText = "429 Too Many Requests" := by
  have hreason : toString 429 ++ " " ++ (Http.reasons.lookup 429).getD "<unknown status code>" =
      "429 Too Many Requests" := by decide +kernel
  exact (congrArg (fun status : Nat => toString status ++ " " ++
    (Http.reasons.lookup status).getD "<unknown status code>") hstatus).trans hreason

/-- The message about a number in the header, with a bracket behind it. -/
theorem refusal_of_header (call : ProviderCall) {response : Http.Response} {v : String}
    (hstatus : response.status = 429) (hheader : response.retryAfter? = some v) :
    ∃ after, (call.refusal response).toList =
      call.front.toList ++ ("retry-after: ".toList ++ (v.toList ++ ')' :: after)) := by
  cases call with
  | mail =>
    have hlimited : response.status = Http.Response.tooManyRequests := hstatus
    have hfront : "mail provider rate limit exceeded (429, ".toList =
        "mail provider rate limit exceeded (429".toList ++ ", ".toList := by decide
    have hhint : ", retry-after: ".toList = ", ".toList ++ "retry-after: ".toList := by decide
    have hend : ")".toList = [')'] := by decide
    refine ⟨[], ?_⟩
    rewrite [refusal, front]
    delta MailProvider.refusal
    rewrite [if_pos hlimited, hheader]
    simp only [String.toList_append, hfront, hhint, hend, List.append_assoc]
  | prompt =>
    have hfront : "LLM API returned error: 429 Too Many Requests (".toList =
        "LLM API returned error: ".toList ++ ("429 Too Many Requests".toList ++ " (".toList) := by
      decide +kernel
    have hhint : " (retry-after: ".toList = " (".toList ++ "retry-after: ".toList := by decide
    have hend : ")".toList = [')'] := by decide
    refine ⟨" - ".toList ++ response.text.toList, ?_⟩
    rewrite [refusal, front]
    delta CompletionProvider.refusal
    rewrite [hheader, statusText_of_429 hstatus]
    simp only [String.toList_append, hfront, hhint, hend, List.append_assoc, List.cons_append,
      List.nil_append]

/-- The message without a number from the header: the body of a response is all that may hold a hint. -/
theorem refusal_without_header (call : ProviderCall) {response : Http.Response}
    (hstatus : response.status = 429) (hheader : response.retryAfter? = none)
    (hbody : hint? response.text = none) : hint? (call.refusal response) = none := by
  cases call with
  | mail =>
    have hlimited : response.status = Http.Response.tooManyRequests := hstatus
    rewrite [refusal]
    delta MailProvider.refusal
    rewrite [if_pos hlimited, hheader]
    exact (by decide : hint? ("mail provider rate limit exceeded (429" ++ "" ++ ")") = none)
  | prompt =>
    have hsilent : Retry.silent
        ("LLM API returned error: " ++ "429 Too Many Requests" ++ "" ++ " - ").toList = true := by
      decide +kernel
    rewrite [refusal]
    delta CompletionProvider.refusal
    rewrite [hheader, statusText_of_429 hstatus, hint?, String.toList_append,
      Retry.firstHint_of_silent hsilent]
    exact hbody

/-- The message says the code. -/
theorem refusal_of_code (call : ProviderCall) {response : Http.Response} (hstatus : response.status = 429) :
    ∃ before after, (call.refusal response).toList = before ++ ("429".toList ++ after) := by
  cases call with
  | mail =>
    have hlimited : response.status = Http.Response.tooManyRequests := hstatus
    have hcode : "mail provider rate limit exceeded (429".toList =
        "mail provider rate limit exceeded (".toList ++ "429".toList := by decide +kernel
    rewrite [refusal]
    delta MailProvider.refusal
    rewrite [if_pos hlimited, String.toList_append, String.toList_append, hcode]
    simp only [List.append_assoc]
    exact ⟨_, _, rfl⟩
  | prompt =>
    have hcode : "429 Too Many Requests".toList = "429".toList ++ " Too Many Requests".toList := by
      decide +kernel
    rewrite [refusal]
    delta CompletionProvider.refusal
    rewrite [statusText_of_429 hstatus]
    simp only [String.toList_append, hcode, List.append_assoc]
    exact ⟨_, _, rfl⟩

end ProviderCall

/-! ## The wait -/

theorem chainText_singleton (text : String) : Failure.chainText [text] = text := by
  delta Failure.chainText
  exact String.intercalate_singleton

/-- With a number in the header, the wait is the one of the number, whatever the body says. -/
theorem ProviderCall.wait_of_header (call : ProviderCall) {response : Http.Response}
    {header : Http.Header} {v : String} {n : Nat} (hstatus : response.status = 429)
    (hheader : Http.find? "retry-after" response.headers = some header)
    (hvalue : header.value = Text.bytesOfString v) (hdigits : AllDigits v.toList)
    (hn : Text.numberIn? 10 v.toList = some n) :
    rateLimitWait? (Failure.other [call.refusal response]).message =
      some ((Span.ofNanos? (Binary64.nearest n * 1000000000)).getD (Span.ofSeconds 60)) := by
  have hread : response.retryAfter? = some v := by
    rw [Http.Response.retryAfter?, hheader, Option.bind_some]
    exact text?_of_digits hdigits hvalue
  obtain ⟨before, after, hcode⟩ := call.refusal_of_code hstatus
  obtain ⟨-, hlimited⟩ := Retry.marks_of_code hcode
  obtain ⟨behind, htext⟩ := call.refusal_of_header hstatus hread
  have hfound := Retry.hint?_of_header htext call.front_silent hdigits (Or.inr ⟨behind, rfl⟩) hn
  change rateLimitWait? (Failure.chainText [call.refusal response]) = _
  rw [chainText_singleton, rateLimitWait?, if_pos hlimited, hfound, Retry.standardWait]

/-- **The wait for a provider.** When a provider answers either client that there are too many requests,
the failure of the handler is worth a retry. With a number in the header, the wait before it is the one
that the number alone would mean, whatever the body says: so many seconds, the number rounded to 53 bits,
which changes none up to `2^53`, or a minute when that many have no span. Without a header, and without a
hint in the body, it is a minute. -/
theorem provider_wait (call : ProviderCall) (transport : Http.Transport σ) (s : σ)
    (response : Http.Response) (hresponse : call.response? transport s = some response)
    (hstatus : response.status = 429) :
    ∃ failure, call.outcome transport s = .failed failure ∧ failure.isRetryable = true ∧
      (∀ header v, Http.find? "retry-after" response.headers = some header →
        header.value = Text.bytesOfString v → AllDigits v.toList →
        rateLimitWait? failure.message =
          some ((hint? ("retry-after: " ++ v)).getD (Span.ofSeconds 60)) ∧
        ∃ n, Text.numberIn? 10 v.toList = some n ∧
          hint? ("retry-after: " ++ v) = Span.ofNanos? (Binary64.nearest n * 1000000000) ∧
          (n ≤ 2 ^ 53 → Binary64.nearest n = n) ∧
          2 * (Binary64.nearest n - n) ≤ 2 ^ (n.log2 - 52) ∧
          2 * (n - Binary64.nearest n) ≤ 2 ^ (n.log2 - 52)) ∧
      (Http.find? "retry-after" response.headers = none → hint? response.text = none →
        rateLimitWait? failure.message = some (Span.ofSeconds 60)) := by
  have hfails : response.isSuccess = false := by
    rw [Http.Response.isSuccess, hstatus]
    rfl
  obtain ⟨before, after, hcode⟩ := call.refusal_of_code hstatus
  obtain ⟨hretryable, hlimited⟩ := Retry.marks_of_code hcode
  have hmessage := chainText_singleton (call.refusal response)
  refine ⟨.other [call.refusal response], ProviderCall.outcome_of_response hresponse hfails, ?_, ?_, ?_⟩
  · change Retry.isRetryable (Failure.chainText [call.refusal response]) = true
    rwa [hmessage]
  · intro header v hheader hvalue hdigits
    obtain ⟨n, hn⟩ := hdigits.number
    have hbare := Retry.hint?_bare hdigits hn
    refine ⟨?_, n, hn, hbare, Binary64.nearest_of_le, Binary64.nearest_error n⟩
    rw [hbare]
    exact call.wait_of_header hstatus hheader hvalue hdigits hn
  · intro hheader hbody
    have hread : response.retryAfter? = none := by
      rw [Http.Response.retryAfter?, hheader, Option.bind_none]
    change rateLimitWait? (Failure.chainText [call.refusal response]) = _
    rw [hmessage, rateLimitWait?, if_pos hlimited, call.refusal_without_header hstatus hread hbody,
      Option.getD_none, Retry.standardWait]

/-- A prompt. -/
def hello : ProviderCall := .prompt ⟨some "key", "model", "http://localhost"⟩ "hello"

/-- A response that says in its header when to come back, and something else in its body. -/
def limitedFor (v : String) : Http.Response :=
  ⟨429, [⟨"retry-after", Text.bytesOfString v⟩], Text.bytesOfString "retry-after: 3h"⟩

theorem limitedFor_header (v : String) :
    Http.find? "retry-after" (limitedFor v).headers = some ⟨"retry-after", Text.bytesOfString v⟩ := by
  simp [limitedFor, Http.find?, Http.sameName]

/-- A network on which everybody gets the same response. -/
def Http.always (response : Http.Response) : Http.Transport Unit := fun _ s => (.ok response, s)

theorem provider_wait_hello :
    hello.response? (Http.always (limitedFor "120")) () = some (limitedFor "120") ∧
    ∃ failure, hello.outcome (Http.always (limitedFor "120")) () = .failed failure ∧
      failure.isRetryable = true ∧ rateLimitWait? failure.message = some (Span.ofSeconds 120) := by
  have hresponse : hello.response? (Http.always (limitedFor "120")) () = some (limitedFor "120") := by
    decide +kernel
  obtain ⟨failure, hfailed, hretryable, hheader, -⟩ := provider_wait hello _ () _ hresponse rfl
  obtain ⟨hwait, n, hn, hbare, hexact, -⟩ :=
    hheader _ "120" (limitedFor_header "120") rfl (by decide)
  obtain rfl : 120 = n := Option.some.inj ((by decide : _ = some 120).symm.trans hn)
  refine ⟨hresponse, failure, hfailed, hretryable, ?_⟩
  rw [hwait, hbare, hexact (by decide)]
  simp [Span.ofNanos?, Span.ofSeconds, Span.clamp]

/-- Not every number of seconds is waited for as it stands: of `2^53 + 1` one is lost. -/
theorem second_lost_beyond_doubles :
    ¬ ∀ (call : ProviderCall) (transport : Http.Transport Unit) (response : Http.Response),
      call.response? transport () = some response → response.status = 429 →
      ∀ header v n, Http.find? "retry-after" response.headers = some header →
        header.value = Text.bytesOfString v → AllDigits v.toList → Text.numberIn? 10 v.toList = some n →
        ∀ failure, call.outcome transport () = .failed failure →
          rateLimitWait? failure.message =
            some ((Span.ofNanos? (n * 1000000000)).getD (Span.ofSeconds 60)) := by
  intro h
  have hresponse : hello.response? (Http.always (limitedFor "9007199254740993")) () =
      some (limitedFor "9007199254740993") := by decide +kernel
  have hdigits : AllDigits "9007199254740993".toList := by decide
  have hnumber : Text.numberIn? 10 "9007199254740993".toList = some 9007199254740993 := by decide
  have hwait := h hello _ _ hresponse rfl _ _ _ (limitedFor_header _) rfl hdigits hnumber _
    (ProviderCall.outcome_of_response hresponse rfl)
  rw [hello.wait_of_header rfl (limitedFor_header _) rfl hdigits hnumber] at hwait
  have hnearest : Binary64.nearest 9007199254740993 = 9007199254740992 := by decide
  rw [hnearest] at hwait
  simp [Span.ofNanos?] at hwait

end DurableJobs
