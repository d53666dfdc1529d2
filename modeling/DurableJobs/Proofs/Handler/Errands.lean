import Mathlib.Data.List.Basic
import DurableJobs.Handler.Builtin
import DurableJobs.Proofs.Text.Reading

/-!
# What the built-in handlers ask of their collaborators

A handler that sends a mail or completes a prompt asks its collaborator for one errand, and what it asks for
is all in the payload: `Asks` says which payload asks for which errand. Dispatched through the built-in
registry, a payload that asks for an errand has it run, once, and the answer decides the outcome; any other
payload is refused for good, and no collaborator hears of it (`dispatch_runs_asked_errand`).

The calls are counted by wrapping the collaborators, whatever they are: a `Journal` is their world together
with the errands they were called for.
-/

set_option autoImplicit false

namespace DurableJobs

/-! ## The registry -/

namespace Keyed

variable {α : Type}

theorem lookup_cons (key other : String) (value : α) (entries : Keyed α) :
    List.lookup other ((key, value) :: entries) =
      if other = key then some value else entries.lookup other := by
  rw [List.lookup_cons]
  by_cases h : other = key
  · rw [if_pos h, h, beq_self_eq_true]
  · rw [if_neg h, beq_false_of_ne h]

theorem lookup_put (key other : String) (value : α) (entries : Keyed α) :
    (put key value entries).lookup other = if other = key then some value else entries.lookup other := by
  induction entries with
  | nil => exact lookup_cons key other value []
  | cons entry rest ih =>
    obtain ⟨k, v⟩ := entry
    rw [put]
    split
    · exact lookup_cons key other value _
    · split
      next hkey => grind [lookup_cons]
      next hkey => grind [lookup_cons]

end Keyed

theorem Registry.get?_register {σ : Type} (registry : Registry σ) (jobType other : String) (handler : Handler σ) :
    (registry.register jobType handler).get? other =
      if other = jobType then some handler else registry.get? other :=
  Keyed.lookup_put jobType other handler registry.handlers

/-! ## Payloads that hold -/

namespace Payload

variable {α : Type} {codec : Json.Codec α} {checks : α → List Check} {payload : List UInt8} {a : α}

theorem validate_eq_ok {b : α} : validate checks a = .ok b ↔ a = b ∧ ∀ check ∈ checks a, check.holds = true := by
  rw [validate]
  split
  next hnone =>
    have hholds : ∀ check ∈ checks a, check.holds = true := by simpa using hnone
    simp only [Except.ok.injEq]
    exact ⟨fun h => ⟨h, hholds⟩, And.left⟩
  next hwrong =>
    have hsome : ¬ ∀ check ∈ checks a, check.holds = true := fun h => hwrong (by simpa using h)
    exact iff_of_false (fun h => by cases h) fun h => hsome h.2

theorem decode_eq_ok :
    decode codec checks payload = .ok a ↔
      codec.decode (Text.symbolsOfBytes payload) = .ok a ∧ ∀ check ∈ checks a, check.holds = true := by
  rw [decode]
  cases codec.decode (Text.symbolsOfBytes payload) with
  | ok b =>
    simp only [validate_eq_ok, Except.ok.injEq]
    exact and_congr_right fun h => by rw [h]
  | error e => simp

/-- Decoding fails in one way only: the payload is invalid, and holds nothing that would decode. -/
theorem decode_eq_error {holds : α → Prop} (hholds : ∀ {a}, decode codec checks payload = .ok a ↔ holds a)
    {failure : Failure} (h : decode codec checks payload = .error failure) :
    (¬ ∃ a, holds a) ∧ ∃ text, failure = .invalidPayload text := by
  refine ⟨fun ⟨a, ha⟩ => ?_, ?_⟩
  · rw [hholds.mpr ha] at h
    cases h
  · rw [decode] at h
    split at h
    · rw [validate] at h
      split at h
      · cases h
      · cases h
        exact ⟨_, rfl⟩
    · cases h
      exact ⟨_, rfl⟩

end Payload

/-- The payload is a document of a mail that can be sent. -/
structure MailPayload.Holds (p : MailPayload) (payload : List UInt8) : Prop where
  read : codec.decode (Text.symbolsOfBytes payload) = .ok p
  recipient : MailAddress.isValid p.recipient = true
  subject : p.subject ≠ ""

/-- The payload is a document of a token that can be mailed. -/
structure TokenPayload.Holds (p : TokenPayload) (payload : List UInt8) : Prop where
  read : codec.decode (Text.symbolsOfBytes payload) = .ok p
  email : MailAddress.isValid p.email = true
  token : p.token ≠ ""

/-- The payload is a document of a prompt that can be completed. -/
structure PromptPayload.Holds (p : PromptPayload) (payload : List UInt8) : Prop where
  read : codec.decode (Text.symbolsOfBytes payload) = .ok p
  prompt : p.prompt ≠ ""

theorem MailPayload.decode_eq_ok {payload : List UInt8} {p : MailPayload} :
    decode payload = .ok p ↔ p.Holds payload := by
  rw [decode, Payload.decode_eq_ok]
  simp only [checks, List.forall_mem_cons, Payload.Check.holds]
  exact ⟨fun ⟨hread, hsubject, hrecipient, _⟩ => ⟨hread, hrecipient, by simpa using hsubject⟩,
    fun ⟨hread, hrecipient, hsubject⟩ => ⟨hread, by simpa using hsubject, hrecipient, by simp⟩⟩

theorem TokenPayload.decode_eq_ok {payload : List UInt8} {p : TokenPayload} :
    decode payload = .ok p ↔ p.Holds payload := by
  rw [decode, Payload.decode_eq_ok]
  simp only [checks, List.forall_mem_cons, Payload.Check.holds]
  exact ⟨fun ⟨hread, hemail, htoken, _⟩ => ⟨hread, hemail, by simpa using htoken⟩,
    fun ⟨hread, hemail, htoken⟩ => ⟨hread, hemail, by simpa using htoken, by simp⟩⟩

theorem PromptPayload.decode_eq_ok {payload : List UInt8} {p : PromptPayload} :
    decode payload = .ok p ↔ p.Holds payload := by
  rw [decode, Payload.decode_eq_ok]
  simp only [checks, List.forall_mem_cons, Payload.Check.holds]
  exact ⟨fun ⟨hread, hprompt, _⟩ => ⟨hread, by simpa using hprompt⟩,
    fun ⟨hread, hprompt⟩ => ⟨hread, by simpa using hprompt, by simp⟩⟩

namespace Builtin

variable {σ : Type}

/-! ## Errands -/

/-- What a handler may ask of its collaborators. -/
inductive Errand where
  | deliver (mail : Mail)
  | complete (prompt : String)
  deriving DecidableEq, Repr

/-- Run an errand; of a completion only whether there is one counts. -/
def Errand.run (mailer : Mailer σ) (completer : Completer σ) : Errand → σ → Except ErrorChain Unit × σ
  | .deliver mail, s => mailer mail s
  | .complete prompt, s => ((completer prompt s).1.map fun _ => (), (completer prompt s).2)

/-- The world of the collaborators, with the errands they were called for, in order. -/
structure Journal (σ : Type) where
  world : σ
  errands : List Errand

/-- A mailer that also enters each call. -/
def Journal.mailer (mailer : Mailer σ) : Mailer (Journal σ) := fun mail journal =>
  ((mailer mail journal.world).1, ⟨(mailer mail journal.world).2, journal.errands ++ [.deliver mail]⟩)

/-- A completer that also enters each call. -/
def Journal.completer (completer : Completer σ) : Completer (Journal σ) := fun prompt journal =>
  ((completer prompt journal.world).1,
    ⟨(completer prompt journal.world).2, journal.errands ++ [.complete prompt]⟩)

/-- The mail of a type that mails tokens. -/
def tokenMail? : BuiltinType → Option TokenMail
  | .sendVerificationEmail => some verification
  | .sendPasswordResetEmail => some passwordReset
  | _ => none

/-- The payload is a valid one of its type. -/
def WellFormed (payload : List UInt8) : BuiltinType → Prop
  | .sendEmail => ∃ p : MailPayload, p.Holds payload
  | .sendVerificationEmail | .sendPasswordResetEmail => ∃ p : TokenPayload, p.Holds payload
  | .processAi => ∃ p : PromptPayload, p.Holds payload
  | .processWebhook => ∃ p, WebhookPayload.codec.decode (Text.symbolsOfBytes payload) = .ok p

/-- A payload of a type asks for an errand: it is a valid one, there is a link for its token if it has one, and
the errand is about what the payload holds, unchanged. -/
inductive Asks (base : Url) (payload : List UInt8) : BuiltinType → Errand → Prop
  | mail {p : MailPayload} (hp : p.Holds payload) :
      Asks base payload .sendEmail (.deliver ⟨p.recipient, p.subject, p.body⟩)
  | tokenMail {type : BuiltinType} {mail : TokenMail} {p : TokenPayload} {link : Url}
      (htype : tokenMail? type = some mail) (hp : p.Holds payload)
      (hlink : tokenLink base mail p.token = .ok link) :
      Asks base payload type (.deliver ⟨p.email, mail.subject, mail.body link.toString⟩)
  | prompt {p : PromptPayload} (hp : p.Holds payload) : Asks base payload .processAi (.complete p.prompt)

/-- Why a payload of a type is refused: it is no valid one, or there is no link for its token. -/
inductive Refused (base : Url) (payload : List UInt8) : BuiltinType → Failure → Prop
  | invalid {type : BuiltinType} (hp : ¬ WellFormed payload type) (text : String) :
      Refused base payload type (.invalidPayload text)
  | noLink {type : BuiltinType} {mail : TokenMail} {p : TokenPayload} {text : String}
      (htype : tokenMail? type = some mail) (hp : p.Holds payload)
      (hlink : tokenLink base mail p.token = .error (.rejected text)) :
      Refused base payload type (.rejected text)

theorem Refused.permanent {base : Url} {payload : List UInt8} {type : BuiltinType} {failure : Failure}
    (h : Refused base payload type failure) : failure.isPermanent = true ∧ failure.isRetryable = false := by
  cases h <;> exact ⟨rfl, rfl⟩

/-! ## From payload to errand -/

/-- What a payload of a type comes to before a collaborator is called; a webhook asks for nothing. -/
def errand? (base : Url) (payload : List UInt8) : BuiltinType → Option (Except Failure Errand)
  | .sendEmail =>
      some ((MailPayload.decode payload).map fun p => .deliver ⟨p.recipient, p.subject, p.body⟩)
  | .sendVerificationEmail => some ((TokenPayload.decode payload >>= verification.compose base).map .deliver)
  | .sendPasswordResetEmail => some ((TokenPayload.decode payload >>= passwordReset.compose base).map .deliver)
  | .processAi => some ((PromptPayload.decode payload).map fun p => .complete p.prompt)
  | .processWebhook => none

section Errand

variable {base : Url} {payload : List UInt8} {type : BuiltinType} {mail : TokenMail}

theorem errand?_tokenMail (htype : tokenMail? type = some mail) :
    errand? base payload type = some ((TokenPayload.decode payload >>= mail.compose base).map .deliver) := by
  cases type <;> cases htype <;> rfl

theorem wellFormed_tokenMail (htype : tokenMail? type = some mail) :
    WellFormed payload type ↔ ∃ p : TokenPayload, p.Holds payload := by
  cases type <;> cases htype <;> rfl

/-- A link fails in one way only: what it would be made of is no URL. -/
theorem tokenLink_eq_error {token : String} {failure : Failure} (h : tokenLink base mail token = .error failure) :
    ∃ text, failure = .rejected text := by
  rw [tokenLink] at h
  split at h
  · cases h
  · cases h
    exact ⟨_, rfl⟩

theorem compose_eq_ok {p : TokenPayload} {letter : Mail} :
    mail.compose base p = .ok letter ↔
      ∃ link, tokenLink base mail p.token = .ok link ∧
        letter = ⟨p.email, mail.subject, mail.body link.toString⟩ := by
  rw [TokenMail.compose, Text.map_eq_ok]
  exact exists_congr fun link => and_congr_right fun _ => eq_comm

theorem tokenMail_asked (htype : tokenMail? type = some mail) {letter : Mail}
    (h : (TokenPayload.decode payload >>= mail.compose base) = .ok letter) :
    Asks base payload type (.deliver letter) := by
  obtain ⟨p, hp, hletter⟩ := Text.bind_eq_ok.mp h
  obtain ⟨link, hlink, rfl⟩ := compose_eq_ok.mp hletter
  exact .tokenMail htype (TokenPayload.decode_eq_ok.mp hp) hlink

theorem tokenMail_refused (htype : tokenMail? type = some mail) {failure : Failure}
    (h : (TokenPayload.decode payload >>= mail.compose base) = .error failure) :
    Refused base payload type failure := by
  cases hp : TokenPayload.decode payload with
  | error invalid =>
    rw [hp] at h
    cases h
    obtain ⟨hnone, text, rfl⟩ := Payload.decode_eq_error TokenPayload.decode_eq_ok hp
    exact .invalid (mt (wellFormed_tokenMail htype).mp hnone) text
  | ok p =>
    rw [hp, Text.ok_bind, TokenMail.compose] at h
    cases hlink : tokenLink base mail p.token with
    | ok link =>
      rw [hlink] at h
      cases h
    | error unlinked =>
      rw [hlink] at h
      cases h
      obtain ⟨text, rfl⟩ := tokenLink_eq_error hlink
      exact .noLink htype (TokenPayload.decode_eq_ok.mp hp) hlink

/-- What a payload comes to is an errand it asks for. -/
theorem asks_of_errand? {errand : Errand} (h : errand? base payload type = some (.ok errand)) :
    Asks base payload type errand := by
  cases type with
  | sendEmail =>
    obtain ⟨p, hp, rfl⟩ := Text.map_eq_ok.mp (Option.some.inj h)
    exact .mail (MailPayload.decode_eq_ok.mp hp)
  | sendVerificationEmail =>
    obtain ⟨letter, hletter, rfl⟩ := Text.map_eq_ok.mp (Option.some.inj h)
    exact tokenMail_asked rfl hletter
  | sendPasswordResetEmail =>
    obtain ⟨letter, hletter, rfl⟩ := Text.map_eq_ok.mp (Option.some.inj h)
    exact tokenMail_asked rfl hletter
  | processAi =>
    obtain ⟨p, hp, rfl⟩ := Text.map_eq_ok.mp (Option.some.inj h)
    exact .prompt (PromptPayload.decode_eq_ok.mp hp)
  | processWebhook => cases h

/-- A payload that asks for an errand comes to it. -/
theorem Asks.errand? {errand : Errand} (h : Asks base payload type errand) :
    errand? base payload type = some (.ok errand) := by
  cases h with
  | mail hp => rw [Builtin.errand?, MailPayload.decode_eq_ok.mpr hp, Except.map]
  | tokenMail htype hp hlink =>
    rw [errand?_tokenMail htype, TokenPayload.decode_eq_ok.mpr hp, Text.ok_bind,
      compose_eq_ok.mpr ⟨_, hlink, rfl⟩, Except.map]
  | prompt hp => rw [Builtin.errand?, PromptPayload.decode_eq_ok.mpr hp, Except.map]

/-- A payload that comes to a failure is refused for it. -/
theorem refused_of_errand? {failure : Failure} (h : errand? base payload type = some (.error failure)) :
    Refused base payload type failure := by
  cases type with
  | sendEmail =>
    obtain ⟨hnone, text, rfl⟩ :=
      Payload.decode_eq_error MailPayload.decode_eq_ok (Text.map_eq_error.mp (Option.some.inj h))
    exact .invalid (show ¬ WellFormed payload .sendEmail from hnone) text
  | sendVerificationEmail => exact tokenMail_refused rfl (Text.map_eq_error.mp (Option.some.inj h))
  | sendPasswordResetEmail => exact tokenMail_refused rfl (Text.map_eq_error.mp (Option.some.inj h))
  | processAi =>
    obtain ⟨hnone, text, rfl⟩ :=
      Payload.decode_eq_error PromptPayload.decode_eq_ok (Text.map_eq_error.mp (Option.some.inj h))
    exact .invalid (show ¬ WellFormed payload .processAi from hnone) text
  | processWebhook => cases h

end Errand

/-! ## Dispatch -/

section Dispatch

variable (mailer : Mailer σ) (completer : Completer σ) (base : Url) (context : JobContext)
  (payload : List UInt8) (journal : Journal σ)

theorem get?_registry (type : BuiltinType) :
    (registry mailer completer base).get? type.name = some (handler mailer completer base type) := by
  simp only [registry, BuiltinType.all, List.foldl_cons, List.foldl_nil, Registry.get?_register]
  cases type <;> simp [BuiltinType.name]

/-- What a dispatch comes to, by what the payload comes to: a failure is answered, an errand is run. -/
def settle : Except Failure Errand → Reaction × Journal σ
  | .error failure => (.answered (.failed failure), journal)
  | .ok errand =>
      (.answered (outcomeOf (errand.run mailer completer journal.world).1),
        ⟨(errand.run mailer completer journal.world).2, journal.errands ++ [errand]⟩)

theorem handler_call {type : BuiltinType} {result : Except Failure Errand}
    (h : errand? base payload type = some result) :
    (handler (Journal.mailer mailer) (Journal.completer completer) base type).call context payload journal =
      settle mailer completer journal result := by
  cases type with
  | sendEmail =>
    cases h
    simp only [handler, sendMail, requesting, Handler.immediate]
    cases MailPayload.decode payload <;> rfl
  | sendVerificationEmail =>
    cases h
    simp only [handler, sendTokenMail, requesting, Handler.immediate]
    cases TokenPayload.decode payload >>= verification.compose base <;> rfl
  | sendPasswordResetEmail =>
    cases h
    simp only [handler, sendTokenMail, requesting, Handler.immediate]
    cases TokenPayload.decode payload >>= passwordReset.compose base <;> rfl
  | processAi =>
    cases h
    simp only [handler, completePrompt, requesting, Handler.immediate]
    cases PromptPayload.decode payload with
    | error failure => rfl
    | ok p =>
      simp only [Except.map, settle, Errand.run, Journal.completer]
      cases (completer p.prompt journal.world).1 <;> rfl
  | processWebhook => cases h

/-- A dispatched payload that asks for an errand has it run once, and the answer decides the outcome: a success is
a success, and of an error the whole chain is kept. Any other payload is refused for good, with nothing run. -/
theorem dispatch_runs_asked_errand {type : BuiltinType} (htype : type ≠ .processWebhook)
    (hcontext : context.jobType = type.name) :
    let after :=
      (registry (Journal.mailer mailer) (Journal.completer completer) base).dispatch context payload journal
    (∀ errand, after.2.errands = journal.errands ++ [errand] ↔ Asks base payload type errand) ∧
      (∀ errand, Asks base payload type errand →
        let answer := errand.run mailer completer journal.world
        after.2 = ⟨answer.2, journal.errands ++ [errand]⟩ ∧
          (after.1 = .answered .done ↔ answer.1 = .ok ()) ∧
          ∀ chain, after.1 = .answered (.failed (.other chain)) ↔ answer.1 = .error chain) ∧
      ((¬ ∃ errand, Asks base payload type errand) →
        ∃ failure, after = (.answered (.failed failure), journal) ∧ Refused base payload type failure ∧
          failure.isPermanent = true ∧ failure.isRetryable = false) := by
  intro after
  obtain ⟨result, hresult⟩ : ∃ result, errand? base payload type = some result := by
    cases type <;> first | exact ⟨_, rfl⟩ | exact absurd rfl htype
  have hafter : after = settle mailer completer journal result := by
    simp only [after, Registry.dispatch, hcontext, get?_registry]
    exact handler_call mailer completer base context payload journal hresult
  clear_value after
  subst hafter
  cases result with
  | ok errand =>
    have hasks := asks_of_errand? hresult
    have honly {other : Errand} (h : Asks base payload type other) : other = errand := by
      have hother := h.errand?
      rw [hresult] at hother
      cases hother
      rfl
    refine ⟨fun other => ?_, fun other hother => ?_, fun hnone => absurd ⟨errand, hasks⟩ hnone⟩
    · simp only [settle, List.append_cancel_left_eq, List.cons.injEq, and_true]
      exact ⟨fun h => h ▸ hasks, fun h => (honly h).symm⟩
    · obtain rfl := honly hother
      refine ⟨rfl, ?_, ?_⟩ <;> simp only [settle]
      all_goals rcases (other.run mailer completer journal.world).1 with chain | ⟨⟩ <;> simp [outcomeOf]
  | error failure =>
    have hnone {errand : Errand} (h : Asks base payload type errand) : False := by
      have hok := h.errand?
      rw [hresult] at hok
      cases hok
    have hrefused := refused_of_errand? hresult
    refine ⟨fun errand => iff_of_false (fun h => ?_) hnone, fun errand h => (hnone h).elim,
      fun _ => ⟨failure, rfl, hrefused, hrefused.permanent⟩⟩
    simp [settle] at h

/-- A mail that the relay turns away: it was handed over once, and the chain of the relay is the outcome. -/
theorem dispatch_runs_asked_errand_turnedAway :
    let payload := Text.bytesOfString "\x7b\"to\":\"a@b.io\",\"subject\":\"Hi\",\"body\":\"\"\x7d"
    let base : Url := ⟨"app".toList, [], [], none, none, .segments [[]], none, none⟩
    let mail : Mail := ⟨"a@b.io", "Hi", ""⟩
    let relay : Mailer Nat := fun _ n => (.error ["relay", "550 no such user"], n + 1)
    let completer : Completer Nat := fun _ n => (.error [], n)
    BuiltinType.sendEmail ≠ .processWebhook ∧ "send_email" = BuiltinType.sendEmail.name ∧
      (registry (Journal.mailer relay) (Journal.completer completer) base).dispatch
          ⟨7, "send_email", none, 1⟩ payload ⟨0, []⟩ =
        (.answered (.failed (.other ["relay", "550 no such user"])), ⟨1, [.deliver mail]⟩) := by
  have hholds : MailPayload.Holds ⟨"a@b.io", "Hi", ""⟩
      (Text.bytesOfString "\x7b\"to\":\"a@b.io\",\"subject\":\"Hi\",\"body\":\"\"\x7d") :=
    MailPayload.decode_eq_ok.mp (by decide +kernel)
  intro payload base mail relay completer
  obtain ⟨-, hruns, -⟩ := dispatch_runs_asked_errand relay completer base ⟨7, "send_email", none, 1⟩ payload
    ⟨0, []⟩ (by decide : BuiltinType.sendEmail ≠ .processWebhook) rfl
  obtain ⟨hafter, -, hfailed⟩ := hruns _ (.mail hholds)
  exact ⟨by decide, rfl, Prod.ext ((hfailed _).mpr rfl) hafter⟩

end Dispatch

end Builtin

end DurableJobs
