/-
# The relay

A relay is a hub with the queues of its viewers.  A viewer is a subscriber whose queue is
held by its registration alone: when the registration goes, nothing more can be delivered,
and the viewer comes to the end of its stream after the messages that wait.

A relay is driven by moves as its hub is.  A message that the hub hands to a viewer is put
into the queue by a move of its own, so a viewer may receive while its replay is still
running.  Other subscribers may be attached beside the viewers; the relay waits for the ends
of their deliveries.
-/
import ReportRelay.Hub
import ReportRelay.Queue

namespace ReportRelay

/-- A hub with the queues of its viewers. -/
structure Relay where
  /-- The hub. -/
  hub : Hub
  /-- The queues of the viewers by the numbers of their subscriptions. -/
  queues : List (SubscriptionId × Queue Message)
  deriving Repr

/-- An act on a relay. -/
inductive RelayMove where
  /-- An act on the hub; a subscriber attached by it is no viewer. -/
  | hub (move : HubMove)
  /-- A viewer is attached with a queue of its own. -/
  | attachViewer (capacity : Nat)
  /-- The message that the hub hands to a viewer is delivered to its queue. -/
  | deliver
  /-- A viewer receives from its queue. -/
  | receive (id : SubscriptionId)
  /-- A viewer gives up its queue. -/
  | dropReceiver (id : SubscriptionId)
  deriving Repr

/-- What can be seen of a relay. -/
inductive RelayEvent where
  /-- An event of the hub. -/
  | hub (event : HubEvent)
  /-- What a viewer has received. -/
  | received (id : SubscriptionId) (what : Received Message)
  deriving Repr

namespace Relay

/-- A relay without history and subscribers. -/
def ofConfig (config : HubConfig) : Relay := ⟨.ofConfig config, []⟩

/-- The queue of a viewer. -/
def queue? (relay : Relay) (id : SubscriptionId) : Option (Queue Message) :=
  relay.queues.lookup id

/-- Changes the queue of a viewer. -/
def updateQueue (relay : Relay) (id : SubscriptionId) (change : Queue Message → Queue Message) :
    Relay :=
  { relay with
    queues := relay.queues.map fun entry =>
      if entry.1 = id then (entry.1, change entry.2) else entry }

/-- The viewer that the hub waits for, with the message and the queue. -/
def delivering? (relay : Relay) : Option (SubscriptionId × Message × Queue Message) :=
  match relay.hub.calling? with
  | none => none
  | some (id, message) => (relay.queue? id).map fun queue => (id, message, queue)

/-- Tells whether the hub holds the subscriber of a number: it is registered, or a message
is still to be handed to it. -/
def holds (hub : Hub) (id : SubscriptionId) : Bool :=
  hub.bus.registered.contains id
    || hub.bus.running.any (fun publication =>
      publication.current == id || publication.pending.contains id)
    || (hub.replay.isSome && hub.bus.nextId == id)

/-- Closes the queues of viewers that the hub does not hold any more. -/
def sweep (relay : Relay) : Relay :=
  { relay with
    queues := relay.queues.map fun entry =>
      if holds relay.hub entry.1 then entry else (entry.1, entry.2.dropSink) }

/-- The relay after its hub has moved. -/
def afterHub (relay : Relay) (moved : Hub × List HubEvent) : Relay × List RelayEvent :=
  (sweep { relay with hub := moved.1 }, moved.2.map RelayEvent.hub)

/-- Ends a delivery to a subscriber that is no viewer. -/
def finish (relay : Relay) (outcome : Outcome) : Relay × List RelayEvent :=
  if relay.delivering?.isSome then (relay, []) else relay.afterHub (relay.hub.finish outcome)

/-- Attaches a viewer with an empty queue. -/
def attachViewer (relay : Relay) (capacity : Nat) : Relay × List RelayEvent :=
  if relay.hub.isBusy then (relay, [])
  else
    let entry := (relay.hub.bus.nextId, Queue.ofCapacity capacity)
    afterHub { relay with queues := relay.queues ++ [entry] } (relay.hub.step .attach)

/-- Delivers the message that the hub hands to a viewer to its queue. -/
def deliver (relay : Relay) : Relay × List RelayEvent :=
  match relay.delivering? with
  | none => (relay, [])
  | some (id, message, queue) =>
    let (queue, outcome) := queue.deliver message
    afterHub (relay.updateQueue id fun _ => queue) (relay.hub.finish outcome)

/-- A viewer receives from its queue. -/
def receive (relay : Relay) (id : SubscriptionId) : Relay × List RelayEvent :=
  match relay.queue? id with
  | none => (relay, [])
  | some queue =>
    let (queue, what) := queue.receive
    (relay.updateQueue id fun _ => queue, [.received id what])

/-- The relay after a move, and what can be seen of it. -/
def step (relay : Relay) : RelayMove → Relay × List RelayEvent
  | .hub (.finish outcome) => relay.finish outcome
  | .hub move => relay.afterHub (relay.hub.step move)
  | .attachViewer capacity => relay.attachViewer capacity
  | .deliver => relay.deliver
  | .receive id => relay.receive id
  | .dropReceiver id => (relay.updateQueue id Queue.dropReceiver, [])

/-- The relay after moves, and what can be seen of them. -/
def run (relay : Relay) : List RelayMove → Relay × List RelayEvent
  | [] => (relay, [])
  | move :: moves =>
    let (relay, events) := relay.step move
    let (relay, later) := run relay moves
    (relay, events ++ later)

/-- Delivers to queues, at most so many times, until the hub waits for another subscriber or
for none. -/
def settle : Nat → Relay → Relay × List RelayEvent
  | 0, relay => (relay, [])
  | fuel + 1, relay =>
    if relay.delivering?.isSome then
      let (relay, events) := relay.step .deliver
      let (relay, later) := settle fuel relay
      (relay, events ++ later)
    else (relay, [])

/-- A move with the deliveries to queues that follow at once. -/
def perform (relay : Relay) (move : RelayMove) : Relay × List RelayEvent :=
  let (relay, events) := relay.step move
  let (relay, later) := settle relay.hub.callsLeft relay
  (relay, events ++ later)

end Relay

end ReportRelay
