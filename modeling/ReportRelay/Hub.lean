/-
# The hub

The hub keeps the last published reports and hands each new one to the attached
subscribers.  A new subscriber first gets the kept reports, oldest first, and is then
registered for new ones.

Publishing a report and attaching a subscriber exclude each other, so a report reaches a
new subscriber either by replay or live.  The hub is driven by moves as the bus is: while
it hands messages to subscribers, only acts that may come from them are taken, which are
removals of subscriptions and the end of the delivery.

Whoever attaches a subscriber gets a handle that removes the subscription once, at the
latest when the handle is discarded.
-/
import ReportRelay.Bus
import ReportRelay.Cache

namespace ReportRelay

/-! ## State -/

/-- A replay that waits for the new subscriber to take a message. -/
structure Replay where
  /-- The message. -/
  message : Message
  /-- The kept messages after it. -/
  pending : List Message
  /-- The number of deliveries so far that were accepted. -/
  accepted : Nat
  deriving Repr

/-- The handle of a subscription. -/
structure Handle where
  /-- The subscription. -/
  id : SubscriptionId
  /-- Whether the handle has been used to remove it. -/
  released : Bool
  deriving DecidableEq, Repr

/-- The state of a hub. -/
structure Hub where
  /-- The settings. -/
  config : HubConfig
  /-- The messages kept for replay. -/
  history : Cache Message
  /-- The bus to the attached subscribers. -/
  bus : Bus
  /-- The replay to a new subscriber, if one is running. -/
  replay : Option Replay
  /-- The handles that have been given out and not discarded. -/
  handles : List Handle
  deriving Repr

/-- A hub without history and subscribers. -/
def Hub.ofConfig (config : HubConfig) : Hub :=
  ⟨config, .ofCapacity config.cache, .empty, none, []⟩

/-! ## Moves and events -/

/-- An act on a hub. -/
inductive HubMove where
  /-- A report is published. -/
  | ingest (report : Json)
  /-- A subscriber is attached. -/
  | attach
  /-- A subscription is removed by its number. -/
  | detach (id : SubscriptionId)
  /-- A subscription is removed through its handle. -/
  | release (id : SubscriptionId)
  /-- The handle of a subscription is discarded. -/
  | discard (id : SubscriptionId)
  /-- The delivery that the hub waits for ends. -/
  | finish (outcome : Outcome)
  deriving Repr

/-- What can be seen of a hub. -/
inductive HubEvent where
  /-- The delivery of a message to a subscription starts; during a replay the subscription
  has the number that it will be registered under. -/
  | called (id : SubscriptionId) (message : Message)
  /-- The delivery to a subscription has ended. -/
  | finished (id : SubscriptionId) (outcome : Outcome)
  /-- A message has been published, with the number of deliveries that were accepted. -/
  | ingested (message : Message) (accepted : Nat)
  /-- A subscriber has been attached, with the number of replayed messages that it has
  accepted. -/
  | attached (id : SubscriptionId) (accepted : Nat)
  /-- A subscription was to be removed, and whether it was registered. -/
  | detached (id : SubscriptionId) (removed : Bool)
  /-- A replay or publication has been given up, as a panic goes through it to its caller. -/
  | abandoned
  deriving Repr

/-- An event of the bus as an event of its hub. -/
def HubEvent.ofBus : BusEvent → HubEvent
  | .subscribed id => attached id 0
  | .unsubscribed id removed => detached id removed
  | .called id message => called id message
  | .finished id outcome => finished id outcome
  | .published message accepted => ingested message accepted

namespace Hub

/-- Tells whether the hub is handing messages to subscribers. -/
def isBusy (hub : Hub) : Bool := hub.replay.isSome || !hub.bus.running.isEmpty

/-- A move of the bus of a hub. -/
def moveBus (hub : Hub) (move : BusMove) : Hub × List HubEvent :=
  let (bus, events) := hub.bus.step move
  ({ hub with bus := bus }, events.map HubEvent.ofBus)

/-- Keeps a report for replay and publishes it. -/
def ingest (hub : Hub) (report : Json) : Hub × List HubEvent :=
  let message := Message.newReport report
  moveBus { hub with history := hub.history.push message } (.publish message)

/-- Goes on with a replay: hands over the next message, or registers the subscriber if
there is none. -/
def replayOn (hub : Hub) (accepted : Nat) : List Message → Hub × List HubEvent
  | [] =>
    let id := hub.bus.nextId
    ({ hub with
        bus := hub.bus.subscribe.1
        replay := none
        handles := hub.handles ++ [⟨id, false⟩] },
      [.attached id accepted])
  | message :: pending =>
    ({ hub with replay := some ⟨message, pending, accepted⟩ }, [.called hub.bus.nextId message])

/-- Removes a subscription by its number. -/
def detach (hub : Hub) (id : SubscriptionId) : Hub × List HubEvent :=
  hub.moveBus (.unsubscribe id)

/-- The handle of a subscription, if it has not been discarded. -/
def handle? (hub : Hub) (id : SubscriptionId) : Option Handle :=
  hub.handles.find? fun handle => handle.id == id

/-- Marks the handle of a subscription as used. -/
def markReleased (id : SubscriptionId) (handle : Handle) : Handle :=
  if handle.id = id then { handle with released := true } else handle

/-- Removes a subscription through its handle, the first time only. -/
def release (hub : Hub) (id : SubscriptionId) : Hub × List HubEvent :=
  match hub.handle? id with
  | some ⟨_, false⟩ => detach { hub with handles := hub.handles.map (markReleased id) } id
  | _ => (hub, [])

/-- Discards the handle of a subscription, which removes the subscription if the handle
has not done so. -/
def discard (hub : Hub) (id : SubscriptionId) : Hub × List HubEvent :=
  let (hub, events) := hub.release id
  ({ hub with handles := hub.handles.filter fun handle => handle.id != id }, events)

/-- Ends the delivery that the hub waits for. -/
def finish (hub : Hub) (outcome : Outcome) : Hub × List HubEvent :=
  match hub.replay with
  | some replay =>
    let id := hub.bus.nextId
    let (hub, events) := hub.replayOn (replay.accepted + outcome.count) replay.pending
    (hub, .finished id outcome :: events)
  | none => hub.moveBus (.finish outcome)

/-- The hub after a move, and what can be seen of it.  While it is busy, no report is
published and no subscriber attached. -/
def step (hub : Hub) : HubMove → Hub × List HubEvent
  | .ingest report => if hub.isBusy then (hub, []) else hub.ingest report
  | .attach => if hub.isBusy then (hub, []) else hub.replayOn 0 hub.history.items
  | .detach id => hub.detach id
  | .release id => hub.release id
  | .discard id => hub.discard id
  | .finish outcome => hub.finish outcome

/-- The hub after moves, and what can be seen of them. -/
def run (hub : Hub) : List HubMove → Hub × List HubEvent
  | [] => (hub, [])
  | move :: moves =>
    let (hub, events) := hub.step move
    let (hub, later) := run hub moves
    (hub, events ++ later)

/-! ## Views -/

/-- The delivery that the hub waits for. -/
def calling? (hub : Hub) : Option (SubscriptionId × Message) :=
  match hub.replay with
  | some replay => some (hub.bus.nextId, replay.message)
  | none => hub.bus.calling?

/-- At most how many deliveries are left of the innermost publication or the replay. -/
def callsLeft (hub : Hub) : Nat :=
  match hub.replay with
  | some replay => replay.pending.length + 1
  | none =>
    match hub.bus.running with
    | [] => 0
    | publication :: _ => publication.pending.length + 1

/-- The kept reports, oldest first. -/
def cached (hub : Hub) : List Json :=
  hub.history.items.filterMap fun message =>
    match message with
    | .newReport report => some report
    | .unknown => none

/-- The number of attached subscribers. -/
def subscriberCount (hub : Hub) : Nat := hub.bus.registered.length

/-- Tells whether the handle of a subscription has been used, if there is one. -/
def isReleased? (hub : Hub) (id : SubscriptionId) : Option Bool :=
  (hub.handle? id).map Handle.released

end Hub

/-! ## Log lines -/

/-- The identifier of a report in the log. -/
def reportIdText (report : Json) : String :=
  match report.get? "id" with
  | some (.string id) => id
  | some value => value.render
  | none => "<none>"

/-- The identifier in the log of the report of a message. -/
def Message.idText : Message → String
  | newReport report => reportIdText report
  | unknown => "<none>"

/-- The log line about an event, given the names of subscribers. -/
def HubEvent.logLine? (name : SubscriptionId → String) : HubEvent → Option LogLine
  | .called _ _ => none
  | .finished id outcome => outcome.logLine? (name id)
  | .ingested message accepted =>
    some ⟨.info, "report ingested",
      [("report", .string message.idText), ("delivered", .ofNat accepted)]⟩
  | .attached id accepted =>
    some ⟨.info, "subscriber attached",
      [("subscriber", .string (name id)), ("id", .string id.text),
        ("replayed", .ofNat accepted)]⟩
  | .detached id true => some ⟨.debug, "subscriber detached", [("id", .string id.text)]⟩
  | .detached _ false => none
  | .abandoned => none

end ReportRelay
