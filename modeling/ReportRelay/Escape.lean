/-
# Panics that escape

What a subscriber panics with may be any value.  It is dropped after the panic has been logged,
where nothing catches a panic any more.  If the value panics in its turn when it is dropped,
that goes through the replay or publication to whoever has called the hub: nobody else is
called, no result is shown, and a subscriber whose replay it was is not attached.  The reports
that the hub keeps and the other subscriptions stay as they are, and the hub takes the next
moves as it would after an ended publication.

Such a panic is not the answer of a subscriber to a message alone but something that it does to
the hub, so it is no outcome of a delivery.  It comes beside the moves of a hub, and beside
those of a relay, whose viewers never panic.
-/
import ReportRelay.Relay

namespace ReportRelay

/-! ## The hub -/

/-- What happens to a hub. -/
inductive HubAct where
  /-- A move is made. -/
  | move (move : HubMove)
  /-- The subscriber that the hub waits for panics with a value, with a text if it has one,
  that panics when it is dropped. -/
  | escape (info : Option String)
  deriving Repr

namespace Hub

/-- The hub without the replay or publication that it waits for. -/
def giveUp (hub : Hub) : Hub :=
  { hub with bus := { hub.bus with running := hub.bus.running.tail }, replay := none }

/-- Lets a panic of the subscriber that the hub waits for through to the caller of the hub. -/
def escape (hub : Hub) (info : Option String) : Hub × List HubEvent :=
  match hub.calling? with
  | none => (hub, [])
  | some (id, _) => (hub.giveUp, [.finished id (.panicked info), .abandoned])

/-- The hub after something has happened to it, and what can be seen of that. -/
def act (hub : Hub) : HubAct → Hub × List HubEvent
  | .move move => hub.step move
  | .escape info => hub.escape info

/-- The hub after some things have happened to it, and what can be seen of them. -/
def actAll (hub : Hub) : List HubAct → Hub × List HubEvent
  | [] => (hub, [])
  | act :: acts =>
    let (hub, events) := hub.act act
    let (hub, later) := actAll hub acts
    (hub, events ++ later)

end Hub

/-! ## The relay -/

/-- What happens to a relay. -/
inductive RelayAct where
  /-- A move is made. -/
  | move (move : RelayMove)
  /-- The subscriber that the hub waits for, who is no viewer, panics with a value, with a text
  if it has one, that panics when it is dropped. -/
  | escape (info : Option String)
  deriving Repr

namespace Relay

/-- Lets a panic of a subscriber that is no viewer through to the caller of the hub. -/
def escape (relay : Relay) (info : Option String) : Relay × List RelayEvent :=
  if relay.delivering?.isSome then (relay, []) else relay.afterHub (relay.hub.escape info)

/-- The relay after something has happened to it, and what can be seen of that. -/
def act (relay : Relay) : RelayAct → Relay × List RelayEvent
  | .move move => relay.step move
  | .escape info => relay.escape info

/-- The relay after some things have happened to it, and what can be seen of them. -/
def actAll (relay : Relay) : List RelayAct → Relay × List RelayEvent
  | [] => (relay, [])
  | act :: acts =>
    let (relay, events) := relay.act act
    let (relay, later) := actAll relay acts
    (relay, events ++ later)

end Relay

end ReportRelay
