import DurableJobs.Retry.Hint

/-!
# Failures of a job

What a handler answers when it could not do its job. Three causes are permanent: no handler knows the
type, the payload does not decode, the handler refuses. A transient one and any other error may pass;
whether another error is worth a retry is read off its whole text.
-/

set_option autoImplicit false

namespace DurableJobs

inductive Failure where
  | transient (text : String)
  | unknownType (text : String)
  | invalidPayload (text : String)
  | rejected (text : String)
  /-- An error with the contexts it was given on its way, outermost first. -/
  | other (chain : List String)
  deriving DecidableEq, Repr

namespace Failure

def isPermanent : Failure → Bool
  | .unknownType _ | .invalidPayload _ | .rejected _ => true
  | .transient _ | .other _ => false

/-- The text of a chain: every link, outermost first. -/
def chainText (chain : List String) : String := ": ".intercalate chain

/-- The whole text: what is stored with the job, and what retry hints are read from. -/
def message : Failure → String
  | .transient text => "transient failure: " ++ text
  | .unknownType text => "unknown job type: " ++ text
  | .invalidPayload text => "invalid payload: " ++ text
  | .rejected text => "rejected: " ++ text
  | .other chain => chainText chain

/-- The short text: of a chain the outermost link only. -/
def display : Failure → String
  | .other chain => chain.headD ""
  | failure => failure.message

def isRetryable : Failure → Bool
  | .transient _ => true
  | .other chain => Retry.isRetryable (chainText chain)
  | .unknownType _ | .invalidPayload _ | .rejected _ => false

end Failure

end DurableJobs
