/-
# The queue of a viewer

A bounded queue between the hub and the connection of one viewer.  The hub holds the end
at which messages are delivered, the connection the end at which they are received.

A delivery that finds the queue full marks it as lagged.  From then on it accepts nothing
and gives nothing out, so that a viewer never gets a message after having missed one.
-/
import ReportRelay.Delivery

namespace ReportRelay

/-- A queue with its two ends. -/
structure Queue (α : Type) where
  /-- The number of items that may wait. -/
  capacity : Nat
  /-- The items that wait, oldest first. -/
  waiting : List α
  /-- Whether a delivery has found the queue full. -/
  lagged : Bool
  /-- Whether the delivering end is still held. -/
  sinkOpen : Bool
  /-- Whether the receiving end is still held. -/
  receiverOpen : Bool
  deriving Repr

/-- What a receiver gets. -/
inductive Received (α : Type) where
  /-- The oldest item. -/
  | item (a : α)
  /-- Nothing yet. -/
  | pending
  /-- Nothing any more. -/
  | ended
  deriving DecidableEq, Repr

namespace Queue

variable {α : Type}

/-- An empty queue with room for at least one item. -/
def ofCapacity (capacity : Nat) : Queue α := ⟨max capacity 1, [], false, true, true⟩

/-- Delivers an item: refused after an overflow, or if nobody can receive it, and
overflowing if there is no room. -/
def deliver (queue : Queue α) (item : α) : Queue α × Outcome :=
  if queue.lagged then (queue, .refused .lagged)
  else if !queue.receiverOpen then (queue, .refused .closed)
  else if queue.capacity ≤ queue.waiting.length then
    ({ queue with lagged := true }, .refused .lagged)
  else ({ queue with waiting := queue.waiting ++ [item] }, .accepted)

/-- Receives an item: none after an overflow, and otherwise the oldest one that waits; the
end comes when none waits and none can be delivered. -/
def receive (queue : Queue α) : Queue α × Received α :=
  if queue.lagged then (queue, .ended)
  else
    match queue.waiting with
    | item :: rest => ({ queue with waiting := rest }, .item item)
    | [] => (queue, if queue.sinkOpen then .pending else .ended)

/-- Gives up the delivering end. -/
def dropSink (queue : Queue α) : Queue α := { queue with sinkOpen := false }

/-- Gives up the receiving end, and the items that wait with it. -/
def dropReceiver (queue : Queue α) : Queue α :=
  { queue with receiverOpen := false, waiting := [] }

end Queue

end ReportRelay
