import DurableJobs.Admission.Bucket
import DurableJobs.Admission.Slots
import DurableJobs.Job

/-!
# Admission

Each job type is admitted by a gate of its own: a token bucket and then slots. Types without a gate
share one. An asker first waits for a token, which nobody queues for, and then for a slot in the order
of arrival; before each look it checks whether its cancellation has been raised, and if so gives up
whatever it has.

Registering a type puts a new gate in its place. Whoever asked before keeps to the old gate, so gates
are numbered and never removed.
-/

set_option autoImplicit false

namespace DurableJobs.Admission

/-- What a gate lets through. -/
structure Profile where
  concurrency : Nat
  rate : Binary64
  burst : Nat
  deriving DecidableEq, Repr

namespace Profile

/-- The profile of the types without one of their own. -/
def fallback : Profile := ⟨5, Binary64.ofNat 1, 5⟩

/-- The profiles of the built-in types. -/
def standard : List (String × Profile) :=
  let mail : Profile := ⟨5, Binary64.ofNat 2, 5⟩
  [(BuiltinType.sendEmail.name, mail),
   (BuiltinType.sendVerificationEmail.name, mail),
   (BuiltinType.sendPasswordResetEmail.name, mail),
   (BuiltinType.processAi.name, ⟨3, Binary64.ofNat 1, 3⟩),
   (BuiltinType.processWebhook.name, ⟨10, Binary64.ofNat 5, 10⟩)]

/-- Every gate has one slot at least. -/
def capacity (profile : Profile) : Nat := max profile.concurrency 1

end Profile

structure Gate (ι : Type) where
  profile : Profile
  bucket : Bucket
  slots : Slots ι
  deriving DecidableEq, Repr

namespace Gate

def ofProfile {ι : Type} (profile : Profile) : Gate ι :=
  ⟨profile, Bucket.full (Bucket.periodOfRate profile.rate) profile.burst,
   Slots.ofCapacity profile.concurrency⟩

/-- Slots that are not free. -/
def inUse {ι : Type} (gate : Gate ι) : Nat := gate.profile.capacity - gate.slots.free

end Gate

/-- What an asker waits for. -/
inductive Stage where
  | token
  | slot
  deriving DecidableEq, Repr

/-- Someone who has asked and not been answered. `κ` names cancellations. -/
structure Waiter (ι κ : Type) where
  asker : ι
  jobType : String
  gate : Nat
  cancellation : κ
  stage : Stage
  deriving DecidableEq, Repr

structure Permit (ι : Type) where
  asker : ι
  jobType : String
  gate : Nat
  deriving DecidableEq, Repr

/-- Why an asker is turned away. -/
inductive Denial where
  | cancelled
  | closed
  deriving DecidableEq, Repr

def Denial.message : Denial → String
  | .cancelled => "rate limit wait cancelled"
  | .closed => "rate limiter closed"

/-- What a look at the gate brings. -/
inductive Answer where
  | granted
  | waiting
  | denied (denial : Denial)
  deriving DecidableEq, Repr

structure Limiter (ι κ : Type) where
  /-- All gates ever made; the first is the shared one. -/
  gates : List (Gate ι)
  /-- The gate of each registered type, by type. -/
  registered : List (String × Nat)
  waiters : List (Waiter ι κ)
  permits : List (Permit ι)
  /-- The cancellations that have been raised. -/
  raised : List κ
  deriving Repr

namespace Limiter

variable {ι κ : Type} [DecidableEq ι] [DecidableEq κ]

/-- Give a type a new gate. -/
def register (limiter : Limiter ι κ) (jobType : String) (profile : Profile) : Limiter ι κ :=
  { limiter with
    gates := limiter.gates ++ [Gate.ofProfile profile]
    registered :=
      (jobType, limiter.gates.length) :: limiter.registered.filter (·.1 != jobType) }

def ofProfiles (profiles : List (String × Profile)) (fallback : Profile) : Limiter ι κ :=
  profiles.foldl (fun limiter p => limiter.register p.1 p.2)
    ⟨[Gate.ofProfile fallback], [], [], [], []⟩

def standard : Limiter ι κ := ofProfiles Profile.standard Profile.fallback

/-- The gate of a type: its own, or the shared one. -/
def gateOf (limiter : Limiter ι κ) (jobType : String) : Nat :=
  (limiter.registered.lookup jobType).getD 0

def updateGate (limiter : Limiter ι κ) (index : Nat) (change : Gate ι → Gate ι) : Limiter ι κ :=
  { limiter with gates := limiter.gates.modify index change }

def dropWaiter (limiter : Limiter ι κ) (asker : ι) : Limiter ι κ :=
  { limiter with waiters := limiter.waiters.filter (·.asker != asker) }

def grant (limiter : Limiter ι κ) (waiter : Waiter ι κ) : Limiter ι κ :=
  let limiter := limiter.dropWaiter waiter.asker
  { limiter with permits := ⟨waiter.asker, waiter.jobType, waiter.gate⟩ :: limiter.permits }

/-- Stop a wait and give up what it has. -/
def withdraw (limiter : Limiter ι κ) (waiter : Waiter ι κ) : Limiter ι κ :=
  (match waiter.stage with
   | .token => limiter
   | .slot =>
       limiter.updateGate waiter.gate fun gate =>
         { gate with slots := gate.slots.withdraw waiter.asker }).dropWaiter waiter.asker

/-- Ask for a slot with a token in hand. -/
def askSlot (limiter : Limiter ι κ) (waiter : Waiter ι κ) : Answer × Limiter ι κ :=
  match limiter.gates[waiter.gate]? with
  | none => (.denied .closed, limiter.dropWaiter waiter.asker)
  | some gate =>
      let (had, slots) := gate.slots.request waiter.asker
      let limiter := limiter.updateGate waiter.gate fun gate => { gate with slots }
      if had then (.granted, limiter.grant waiter)
      else
        (.waiting,
         { limiter with
           waiters := limiter.waiters.map fun w =>
             if w.asker = waiter.asker then { w with stage := .slot } else w })

/-- An asker looks again: at its cancellation first, and then at what it waits for. -/
def look (limiter : Limiter ι κ) (waiter : Waiter ι κ) (now : Nat) : Answer × Limiter ι κ :=
  if waiter.cancellation ∈ limiter.raised then
    (.denied .cancelled, limiter.withdraw waiter)
  else
    match limiter.gates[waiter.gate]? with
    | none => (.denied .closed, limiter.dropWaiter waiter.asker)
    | some gate =>
        match waiter.stage with
        | .token =>
            if gate.bucket.ready now then
              (limiter.updateGate waiter.gate fun gate =>
                { gate with bucket := gate.bucket.take now }).askSlot waiter
            else (.waiting, limiter)
        | .slot =>
            let (had, slots) := gate.slots.collect waiter.asker
            if had then
              (.granted,
               (limiter.updateGate waiter.gate fun gate => { gate with slots }).grant waiter)
            else (.waiting, limiter)

def waiter? (limiter : Limiter ι κ) (asker : ι) : Option (Waiter ι κ) :=
  limiter.waiters.find? (·.asker == asker)

/-- Look again for an asker; `none` when it does not wait. -/
def poll (limiter : Limiter ι κ) (asker : ι) (now : Nat) : Option Answer × Limiter ι κ :=
  match limiter.waiter? asker with
  | none => (none, limiter)
  | some waiter =>
      let (answer, limiter) := limiter.look waiter now
      (some answer, limiter)

/-- Ask, and look once. -/
def acquire (limiter : Limiter ι κ) (asker : ι) (jobType : String) (cancellation : κ) (now : Nat) :
    Answer × Limiter ι κ :=
  let waiter : Waiter ι κ := ⟨asker, jobType, limiter.gateOf jobType, cancellation, .token⟩
  { limiter with waiters := limiter.waiters ++ [waiter] }.look waiter now

/-- Stop waiting without an answer; says whether there was a wait. -/
def abandon (limiter : Limiter ι κ) (asker : ι) : Bool × Limiter ι κ :=
  match limiter.waiter? asker with
  | none => (false, limiter)
  | some waiter => (true, limiter.withdraw waiter)

/-- Give a permit back; the answer is its type. -/
def release (limiter : Limiter ι κ) (asker : ι) : Option String × Limiter ι κ :=
  match limiter.permits.find? (·.asker == asker) with
  | none => (none, limiter)
  | some permit =>
      let limiter :=
        limiter.updateGate permit.gate fun gate => { gate with slots := gate.slots.release asker }
      (some permit.jobType,
       { limiter with permits := limiter.permits.filter (·.asker != asker) })

/-- Raise a cancellation. Who waits under it finds out at its next look. -/
def cancel (limiter : Limiter ι κ) (cancellation : κ) : Limiter ι κ :=
  { limiter with raised := cancellation :: limiter.raised }

/-- How busy a gate is. -/
structure GateStats where
  concurrency : Nat
  inUse : Nat
  rate : Binary64
  deriving DecidableEq, Repr

/-- The registered types and how busy their gates are. -/
def stats (limiter : Limiter ι κ) : List (String × GateStats) :=
  limiter.registered.filterMap fun (jobType, index) =>
    limiter.gates[index]?.map fun gate =>
      (jobType, ⟨gate.profile.capacity, gate.inUse, gate.profile.rate⟩)

/-- Whether looking again could get an asker anywhere: a cancellation, a token or a slot is there. -/
def canProgress (limiter : Limiter ι κ) (waiter : Waiter ι κ) (now : Nat) : Bool :=
  waiter.cancellation ∈ limiter.raised ||
    match limiter.gates[waiter.gate]? with
    | none => true
    | some gate =>
        match waiter.stage with
        | .token => gate.bucket.ready now
        | .slot => waiter.asker ∈ gate.slots.assigned

/-- The earliest time at which a token comes that somebody waits for. -/
def nextTokenAt? (limiter : Limiter ι κ) : Option Nat :=
  ((limiter.waiters.filter (·.stage == .token)).filterMap fun waiter =>
    limiter.gates[waiter.gate]?.map (·.bucket.readyAt)).min?

end Limiter

end DurableJobs.Admission
