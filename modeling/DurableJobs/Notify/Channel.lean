import DurableJobs.Json.Value

/-!
# Notifications

Whoever wants to know what has been done subscribes to a channel. A channel keeps the last
notifications, as many as its capacity, and every subscriber has a place of its own in the sequence of
all that were ever sent. A subscriber that has fallen behind what is kept is told once how many it has
missed and goes on with the oldest kept.
-/

set_option autoImplicit false

namespace DurableJobs

/-- A notification for one user, or for all. -/
structure Notification where
  userId : Option Int
  event : String
  data : String
  deriving DecidableEq, Repr

namespace Notification

/-- The event of a job whose work is done. -/
def jobCompleted : String := "job_completed"

/-- The JSON text of a notification. -/
def text (n : Notification) : String :=
  Json.objectText
    [("user_id", match n.userId with
        | some id => toString id
        | none => "null"),
     ("event", Json.stringText n.event),
     ("data", Json.stringText n.data)]

end Notification

/-- A channel and its subscribers, named by `ι`. -/
structure Channel (ι : Type) where
  capacity : Nat
  /-- All that was sent, oldest first. -/
  sent : List Notification
  /-- How many notifications each subscriber has behind it. -/
  places : List (ι × Nat)
  deriving Repr

namespace Channel

variable {ι : Type} [DecidableEq ι]

def standardCapacity : Nat := 256

/-- The least power of two that is not below `n`. -/
def roundUp (n : Nat) : Nat := if n ≤ 1 then 1 else Nat.pow 2 ((n - 1).log2 + 1)

/-- A channel with room for `capacity` notifications, one at least, rounded up to a power of two. -/
def ofCapacity (capacity : Nat) : Channel ι := ⟨roundUp capacity, [], []⟩

/-- A new subscriber sees what is sent from now on. -/
def subscribe (channel : Channel ι) (id : ι) : Channel ι :=
  { channel with
    places := (id, channel.sent.length) :: channel.places.filter (·.1 != id) }

def unsubscribe (channel : Channel ι) (id : ι) : Channel ι :=
  { channel with places := channel.places.filter (·.1 != id) }

def send (channel : Channel ι) (notification : Notification) : Channel ι :=
  { channel with sent := channel.sent ++ [notification] }

/-- What a subscriber gets. -/
inductive Received where
  | notification (n : Notification)
  | empty
  | lagged (missed : Nat)
  | closed
  deriving DecidableEq, Repr

/-- The next notification of a subscriber. -/
def receive (channel : Channel ι) (id : ι) : Received × Channel ι :=
  match channel.places.lookup id with
  | none => (.closed, channel)
  | some place =>
      let moveTo (place : Nat) : Channel ι :=
        { channel with
          places := channel.places.map fun p => if p.1 = id then (id, place) else p }
      let oldest := channel.sent.length - channel.capacity
      if place < oldest then (.lagged (oldest - place), moveTo oldest)
      else
        match channel.sent[place]? with
        | some n => (.notification n, moveTo (place + 1))
        | none => (.empty, channel)

end Channel

end DurableJobs
