import DurableJobs.Handler.Collaborators
import DurableJobs.Handler.Registry

/-!
# Rehearsals

Handlers, a mailer and a completer that play a script and remember what they were asked, so that a
processor can be run without a world around it. The n-th call plays the n-th entry of its script, and
the last entry repeats.
-/

set_option autoImplicit false

namespace DurableJobs.Rehearsal

/-- A call of a scripted handler. -/
structure Call where
  context : JobContext
  payload : List UInt8
  deriving DecidableEq, Repr

/-- What a scripted handler does when it is called. -/
inductive Cue where
  | succeed
  | panic
  /-- Wait for a permit, then succeed. -/
  | block
  | fail (failure : Failure)
  deriving DecidableEq, Repr

/-- What has been played so far: the calls and deliveries in order, how often each scripted handler has
been called, and the permits that blocked calls may take. -/
structure Stage where
  calls : List Call
  mails : List Mail
  prompts : List String
  played : List (Nat × Nat)
  mailsAsked : Nat
  permits : Nat

namespace Stage

def empty : Stage := ⟨[], [], [], [], 0, 0⟩

def timesPlayed (stage : Stage) (part : Nat) : Nat := (stage.played.lookup part).getD 0

def countPlay (stage : Stage) (part : Nat) : Stage :=
  { stage with
    played := (part, stage.timesPlayed part + 1) :: stage.played.filter (·.1 != part) }

def permit (stage : Stage) (count : Nat) : Stage :=
  { stage with permits := stage.permits + count }

/-- A blocked call goes on if there is a permit for it. -/
def takePermit (stage : Stage) : Option (HandlerOutcome × Stage) :=
  if stage.permits = 0 then none else some (.done, { stage with permits := stage.permits - 1 })

end Stage

/-- The n-th entry of a script, or the last. -/
def entryAt? {α : Type} (script : List α) (n : Nat) : Option α :=
  match script[n]? with
  | some entry => some entry
  | none => script.getLast?

/-- The handler that plays a part by its script; an empty script succeeds. -/
def handler (part : Nat) (script : List Cue) : Handler Stage where
  call context payload stage :=
    let cue := entryAt? script (stage.timesPlayed part)
    let stage := stage.countPlay part
    let stage := { stage with calls := stage.calls ++ [⟨context, payload⟩] }
    match cue with
    | some .panic => (.answered .panicked, stage)
    | some (.fail failure) => (.answered (.failed failure), stage)
    | some .block =>
        match stage.takePermit with
        | some (outcome, stage) => (.answered outcome, stage)
        | none => (.waiting, stage)
    | some .succeed | none => (.answered .done, stage)
  resume _ stage := stage.takePermit

/-- A mailer that fails where its script says so and keeps what it delivers. -/
def mailer (script : List (Option ErrorChain)) : Mailer Stage := fun mail stage =>
  let entry := (entryAt? script stage.mailsAsked).join
  let stage := { stage with mailsAsked := stage.mailsAsked + 1 }
  match entry with
  | some chain => (.error chain, stage)
  | none => (.ok (), { stage with mails := stage.mails ++ [mail] })

/-- A completer that fails where its script says so; it keeps every prompt it is asked. -/
def completer (script : List (Option ErrorChain)) : Completer Stage := fun prompt stage =>
  let entry := (entryAt? script stage.prompts.length).join
  let stage := { stage with prompts := stage.prompts ++ [prompt] }
  match entry with
  | some chain => (.error chain, stage)
  | none => (.ok ⟨"ok", 0, 0, 0⟩, stage)

end DurableJobs.Rehearsal
