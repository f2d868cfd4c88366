/-
# Rehearsals of a hub

A hub whose subscribers are scripted or are viewers with queues.  Subscriptions and queues
are kept under labels.
-/
import ReportRelay.Rehearsal.Script
import ReportRelay.Relay

namespace ReportRelay

/-- A hub with its labelled subscribers. -/
structure HubRehearsal where
  /-- The hub with the queues of the viewers. -/
  relay : Relay
  /-- The scripted subscribers by the numbers of their subscriptions. -/
  actors : List (SubscriptionId × Actor)
  /-- The names of all subscribers. -/
  names : List (SubscriptionId × String)
  /-- The labelled handles. -/
  handles : List (String × SubscriptionId)
  /-- The labelled queues. -/
  receivers : List (String × SubscriptionId)
  /-- What was noted, last first. -/
  journal : List JournalEntry
  /-- What was logged, last first. -/
  log : List LogLine

namespace HubRehearsal

/-- A hub without history and subscribers. -/
def ofConfig (config : HubConfig) : HubRehearsal := ⟨.ofConfig config, [], [], [], [], [], []⟩

/-- The hub. -/
def hub (r : HubRehearsal) : Hub := r.relay.hub

/-- The name of a subscriber. -/
def nameOf (r : HubRehearsal) (id : SubscriptionId) : String := (r.names.lookup id).getD ""

/-- Adds a note to the journal. -/
def note (r : HubRehearsal) (entry : JournalEntry) : HubRehearsal :=
  { r with journal := entry :: r.journal }

/-- The log line about an event. -/
def lineOf? (r : HubRehearsal) : RelayEvent → Option LogLine
  | .hub event => event.logLine? r.nameOf
  | .received _ _ => none

/-- Moves the relay, and logs what follows. -/
def move (r : HubRehearsal) (m : RelayMove) : HubRehearsal × List RelayEvent :=
  let (relay, events) := r.relay.perform m
  let lines := events.filterMap r.lineOf?
  ({ r with relay := relay, log := lines.reverse ++ r.log }, events)

/-- Removes a subscription by its number, and tells whether it was registered. -/
def detachId (r : HubRehearsal) (id : SubscriptionId) : HubRehearsal × Bool :=
  let registered := r.hub.bus.registered.contains id
  ((r.move (.hub (.detach id))).1, registered)

/-- A removal by a subscriber. -/
def remove (label : String) (r : HubRehearsal) (id : SubscriptionId) : HubRehearsal :=
  let (r, registered) := r.detachId id
  r.note (.removed label registered)

/-- A delivery to a scripted subscriber, up to its outcome. -/
def act (r : HubRehearsal) (id : SubscriptionId) (message : Message) : HubRehearsal × Outcome :=
  match r.actors.lookup id with
  | none => (r, .accepted)
  | some actor =>
    let r := { r with actors := updateAt id (fun a => { a with calls := a.calls + 1 }) r.actors }
    let r := r.note (actor.note message)
    (actor.script.removes.foldl (remove actor.script.label) r, actor.outcome)

/-- Plays at most so many deliveries to scripted subscribers; gathers the events of the
moves. -/
def play : Nat → HubRehearsal → HubRehearsal × List RelayEvent
  | 0, r => (r, [])
  | fuel + 1, r =>
    match r.hub.calling? with
    | none => (r, [])
    | some (id, message) =>
      let (r, outcome) := act r id message
      let (r, events) := r.move (.hub (.finish outcome))
      let (r, later) := play fuel r
      (r, events ++ later)

/-- Moves the relay and plays the deliveries that follow. -/
def perform (r : HubRehearsal) (m : RelayMove) : HubRehearsal × List RelayEvent :=
  let (r, events) := r.move m
  let (r, later) := play r.hub.callsLeft r
  (r, events ++ later)

/-- The number of accepted deliveries of a published message. -/
def acceptedOf? : RelayEvent → Option Nat
  | .hub (.ingested _ accepted) => some accepted
  | _ => none

/-- Publishes a report, and counts the subscribers that accepted it. -/
def ingest (r : HubRehearsal) (report : Json) : HubRehearsal × Nat :=
  let (r, events) := r.perform (.hub (.ingest report))
  (r, (events.findSome? acceptedOf?).getD 0)

/-- Keeps a new subscription under a label, in place of an earlier one, which is
removed. -/
def keep (r : HubRehearsal) (label : String) (id : SubscriptionId) : HubRehearsal :=
  let earlier := r.handles.lookup label
  let r := { r with handles := (label, id) :: r.handles.filter fun entry => entry.1 != label }
  match earlier with
  | none => r
  | some id => (r.perform (.hub (.discard id))).1

/-- Attaches a scripted subscriber. -/
def attachScripted (r : HubRehearsal) (script : Script) : HubRehearsal × SubscriptionId :=
  let id := r.hub.bus.nextId
  let r := { r with
    actors := r.actors ++ [(id, Actor.mk script 0)]
    names := (id, script.label) :: r.names }
  let (r, _) := r.perform (.hub .attach)
  (r.keep script.label id, id)

/-- Attaches a viewer whose queue has the given capacity, or that of the settings. -/
def attachViewer (r : HubRehearsal) (label : String) (capacity : Option Nat) :
    HubRehearsal × SubscriptionId :=
  let id := r.hub.bus.nextId
  let r := { r with
    names := (id, label) :: r.names
    receivers := (label, id) :: r.receivers.filter fun entry => entry.1 != label }
  let (r, _) := r.perform (.attachViewer (capacity.getD r.hub.config.queue))
  (r.keep label id, id)

/-- Tells whether the handle under a label has been used. -/
def isDetached? (r : HubRehearsal) (label : String) : Option Bool :=
  (r.handles.lookup label).bind r.hub.isReleased?

/-- Removes the subscription under a label; tells whether its handle had been used before
and has been after. -/
def detach (r : HubRehearsal) (label : String) : HubRehearsal × Option (Bool × Bool) :=
  match r.handles.lookup label with
  | none => (r, none)
  | some id =>
    let before := (r.hub.isReleased? id).getD true
    let (r, _) := r.perform (.hub (.release id))
    (r, some (before, (r.hub.isReleased? id).getD true))

/-- Discards the handle under a label, if there is one. -/
def discard (r : HubRehearsal) (label : String) : HubRehearsal × Bool :=
  match r.handles.lookup label with
  | none => (r, false)
  | some id =>
    let r := { r with handles := r.handles.filter fun entry => entry.1 != label }
    ((r.perform (.hub (.discard id))).1, true)

/-- What a viewer received, as an event tells it. -/
def receivedOf? : RelayEvent → Option (Received Message)
  | .received _ what => some what
  | .hub _ => none

/-- Receives so many times from a queue. -/
def receiveMany : Nat → HubRehearsal → SubscriptionId → HubRehearsal × List (Received Message)
  | 0, r, _ => (r, [])
  | n + 1, r, id =>
    let (r, events) := r.move (.receive id)
    let (r, later) := receiveMany n r id
    (r, events.filterMap receivedOf? ++ later)

/-- Receives so many times from the queue under a label; tells also whether the queue has
lagged. -/
def receive (r : HubRehearsal) (label : String) (times : Nat) :
    HubRehearsal × Option (List (Received Message) × Bool) :=
  match r.receivers.lookup label with
  | none => (r, none)
  | some id =>
    let (r, got) := receiveMany times r id
    (r, some (got, ((r.relay.queue? id).map Queue.lagged).getD false))

/-- Gives up the queue under a label, if there is one. -/
def dropReceiver (r : HubRehearsal) (label : String) : HubRehearsal × Bool :=
  match r.receivers.lookup label with
  | none => (r, false)
  | some id =>
    let r := { r with receivers := r.receivers.filter fun entry => entry.1 != label }
    ((r.move (.dropReceiver id)).1, true)

end HubRehearsal

end ReportRelay
