import DurableJobs.Failure

/-!
# Collaborators

What the built-in handlers need from outside: something that delivers a mail and something that
completes a prompt. Both are functions on a state `σ` of the world they live in, and an error of theirs
is a chain of texts, outermost first.
-/

set_option autoImplicit false

namespace DurableJobs

structure Mail where
  recipient : String
  subject : String
  body : String
  deriving DecidableEq, Repr

/-- What a prompt was answered with, and what it cost. -/
structure Completion where
  text : String
  promptTokens : Nat
  completionTokens : Nat
  totalTokens : Nat
  deriving DecidableEq, Repr

/-- An error with the contexts it was given, outermost first. -/
abbrev ErrorChain := List String

abbrev Mailer (σ : Type) := Mail → σ → Except ErrorChain Unit × σ

abbrev Completer (σ : Type) := String → σ → Except ErrorChain Completion × σ

/-- A mailer that writes mails to the log only: nothing is delivered and nothing fails. -/
def logMailer {σ : Type} : Mailer σ := fun _ s => (.ok (), s)

end DurableJobs
