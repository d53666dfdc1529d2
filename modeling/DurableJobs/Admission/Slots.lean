/-!
# Slots

How many may work at once. Whoever finds no free slot queues, first come first served, and a slot that
comes back is assigned to the head of the queue at once, before it comes to collect it: an assigned
slot is in use. Whoever gives up an assigned slot passes it on in the same way.
-/

set_option autoImplicit false

namespace DurableJobs.Admission

/-- Slots for askers of type `ι`. -/
structure Slots (ι : Type) where
  free : Nat
  /-- Who waits, in order of arrival. -/
  queue : List ι
  /-- Who has been given a slot and has not collected it. -/
  assigned : List ι
  /-- Who works. -/
  held : List ι
  deriving DecidableEq, Repr

namespace Slots

variable {ι : Type} [DecidableEq ι]

/-- Slots of which none is taken; there is one at least. -/
def ofCapacity (capacity : Nat) : Slots ι := ⟨max capacity 1, [], [], []⟩

/-- Hand a slot on: to the head of the queue, or back. -/
def pass (slots : Slots ι) : Slots ι :=
  match slots.queue with
  | [] => { slots with free := slots.free + 1 }
  | next :: queue => { slots with queue, assigned := slots.assigned ++ [next] }

/-- Ask for a slot: the answer says whether it was had at once. -/
def request (slots : Slots ι) (asker : ι) : Bool × Slots ι :=
  if slots.free = 0 then (false, { slots with queue := slots.queue ++ [asker] })
  else (true, { slots with free := slots.free - 1, held := asker :: slots.held })

/-- Collect a slot if it has been assigned. -/
def collect (slots : Slots ι) (asker : ι) : Bool × Slots ι :=
  if asker ∈ slots.assigned then
    (true, { slots with assigned := slots.assigned.erase asker, held := asker :: slots.held })
  else (false, slots)

/-- Stop waiting; a slot that was assigned is handed on. -/
def withdraw (slots : Slots ι) (asker : ι) : Slots ι :=
  if asker ∈ slots.assigned then
    pass { slots with assigned := slots.assigned.erase asker }
  else { slots with queue := slots.queue.erase asker }

/-- Stop working. -/
def release (slots : Slots ι) (asker : ι) : Slots ι :=
  if asker ∈ slots.held then pass { slots with held := slots.held.erase asker } else slots

end Slots

end DurableJobs.Admission
