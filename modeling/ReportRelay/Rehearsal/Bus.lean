/-
# Rehearsals of a bus

A bus whose subscribers are all scripted.  A rehearsal plays the moves that the scripts ask
for, publication within publication, and keeps the journal and the log.
-/
import ReportRelay.Rehearsal.Script

namespace ReportRelay

/-- A bus with its scripted subscribers. -/
structure BusRehearsal where
  /-- The bus. -/
  bus : Bus
  /-- The subscribers by the numbers of their subscriptions. -/
  actors : List (SubscriptionId × Actor)
  /-- What was noted, last first. -/
  journal : List JournalEntry
  /-- What was logged, last first. -/
  log : List LogLine

namespace BusRehearsal

/-- A bus without subscribers. -/
def empty : BusRehearsal := ⟨.empty, [], [], []⟩

/-- The name of a subscriber. -/
def nameOf (r : BusRehearsal) (id : SubscriptionId) : String :=
  ((r.actors.lookup id).map fun actor => actor.script.label).getD ""

/-- Adds a note to the journal. -/
def note (r : BusRehearsal) (entry : JournalEntry) : BusRehearsal :=
  { r with journal := entry :: r.journal }

/-- Moves the bus, and logs what follows. -/
def move (r : BusRehearsal) (m : BusMove) : BusRehearsal × List BusEvent :=
  let (bus, events) := r.bus.step m
  let lines := events.filterMap (BusEvent.logLine? r.nameOf)
  ({ r with bus := bus, log := lines.reverse ++ r.log }, events)

/-- Subscribes a scripted subscriber. -/
def subscribe (r : BusRehearsal) (script : Script) : BusRehearsal × SubscriptionId :=
  let id := r.bus.nextId
  let (r, _) := r.move .subscribe
  ({ r with actors := r.actors ++ [(id, Actor.mk script 0)] }, id)

/-- Removes a subscription, and tells whether it was registered. -/
def unsubscribe (r : BusRehearsal) (id : SubscriptionId) : BusRehearsal × Bool :=
  let registered := r.bus.registered.contains id
  ((r.move (.unsubscribe id)).1, registered)

/-- A removal by a subscriber. -/
def remove (label : String) (r : BusRehearsal) (id : SubscriptionId) : BusRehearsal :=
  let (r, registered) := r.unsubscribe id
  r.note (.removed label registered)

/-- A subscription by a subscriber. -/
def add (label : String) (r : BusRehearsal) (script : Script) : BusRehearsal :=
  let (r, id) := r.subscribe script
  r.note (.added label id)

/-- A delivery to a scripted subscriber, up to its outcome, given how to publish. -/
def act (publish : BusRehearsal → Message → BusRehearsal × Nat) (r : BusRehearsal)
    (id : SubscriptionId) (message : Message) : BusRehearsal × Outcome :=
  match r.actors.lookup id with
  | none => (r, .accepted)
  | some actor =>
    let label := actor.script.label
    let r := { r with actors := updateAt id (fun a => { a with calls := a.calls + 1 }) r.actors }
    let r := r.note (actor.note message)
    let r := actor.script.removes.foldl (remove label) r
    let r := actor.script.adds.foldl (add label) r
    let r :=
      match actor.script.followUp? message with
      | none => r
      | some next =>
        let (r, accepted) := publish r next
        r.note (.followedUp label accepted)
    (r, actor.outcome)

/-- Plays at most so many deliveries of a publication to its end, after a move with these
events. -/
def play (publish : BusRehearsal → Message → BusRehearsal × Nat) :
    Nat → BusRehearsal → List BusEvent → BusRehearsal × Nat
  | 0, r, _ => (r, 0)
  | fuel + 1, r, events =>
    match events.getLast? with
    | some (.called id message) =>
      let (r, outcome) := act publish r id message
      let (r, events) := r.move (.finish outcome)
      play publish fuel r events
    | some (.published _ accepted) => (r, accepted)
    | _ => (r, 0)

/-- Publishes a message, follow-ups being nested at most so deep. -/
def publish : Nat → BusRehearsal → Message → BusRehearsal × Nat
  | depth, r, message =>
    let deeper :=
      match depth with
      | 0 => fun r _ => (r, 0)
      | depth + 1 => publish depth
    let fuel := r.bus.registered.length + 1
    let (r, events) := r.move (.publish message)
    play deeper fuel r events

/-- A bound on how deep follow-ups can be nested. -/
def depth (r : BusRehearsal) : Nat := Script.depthAll (r.actors.map fun entry => entry.2.script)

/-- Publishes a message. -/
def publishAll (r : BusRehearsal) (message : Message) : BusRehearsal × Nat :=
  publish r.depth r message

end BusRehearsal

end ReportRelay
