import StackDeploy.Event.Basic

/-!
# Subscribers

Every published batch goes to every subscriber that still listens. A subscriber that has stopped
listening is dropped at the next publication.
-/

namespace StackDeploy

/-- A **subscriber** with what it has received, oldest first. -/
structure Subscriber where
  name : String
  listening : Bool
  received : List Batch

/-- The subscribers of one stream, in the order they subscribed. -/
structure Broadcast where
  subscribers : List Subscriber

namespace Broadcast

/-- A stream without subscribers. -/
def empty : Broadcast := ⟨[]⟩

/-- Adds a subscriber, which receives what is published from now on. -/
def subscribe (b : Broadcast) (name : String) : Broadcast :=
  ⟨b.subscribers ++ [⟨name, true, []⟩]⟩

/-- A subscriber stops listening. -/
def close (b : Broadcast) (name : String) : Broadcast :=
  ⟨b.subscribers.map fun s => if s.name = name then { s with listening := false } else s⟩

/-- Gives a batch to every listening subscriber and drops the others. -/
def publish (b : Broadcast) (batch : Batch) : Broadcast :=
  ⟨(b.subscribers.filter (·.listening)).map fun s => { s with received := s.received ++ [batch] }⟩

/-- Publishes the batch of a tick; an empty batch is not published. -/
def publishNonempty (b : Broadcast) (batch : Batch) : Broadcast :=
  if batch.isEmpty then b else b.publish batch

/-- What every subscriber has received, read and removed. -/
def drain (b : Broadcast) : List (String × List Batch) × Broadcast :=
  (b.subscribers.map fun s => (s.name, s.received),
    ⟨b.subscribers.map fun s => { s with received := [] }⟩)

end Broadcast

end StackDeploy
