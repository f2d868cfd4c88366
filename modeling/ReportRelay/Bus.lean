/-
# The bus

The bus hands each published message to the subscriptions that are registered when the
publication starts, one after another in the order of subscription.

Subscribers act on the bus while they take a message: they may subscribe others, remove
any subscription and publish messages themselves.  So the bus is a machine that is driven
by moves.  While a publication runs, it waits for the subscription whose turn it is; moves
that come in that time are acts of that subscriber, and its delivery ends with the move
`finish`.  A publication from within a delivery runs to its end before that delivery goes
on, which makes the running publications a stack.

Each subscription has a flag that tells whether it is active.  Removing a subscription
takes it from the registered ones and clears its flag; publications that had started
before look at the flag when its turn comes.
-/
import ReportRelay.Delivery
import ReportRelay.Log
import ReportRelay.Message

namespace ReportRelay

/-! ## State -/

/-- The number of a subscription. -/
abbrev SubscriptionId := Nat

/-- The text of the number of a subscription. -/
def SubscriptionId.text (id : SubscriptionId) : String := "sub-" ++ toString id

/-- A publication that waits for the subscription whose turn it is. -/
structure Publication where
  /-- The message. -/
  message : Message
  /-- The subscription whose turn it is. -/
  current : SubscriptionId
  /-- The subscriptions after it that were registered when the publication started. -/
  pending : List SubscriptionId
  /-- The number of deliveries so far that were accepted. -/
  accepted : Nat
  deriving Repr

/-- The state of a bus. -/
structure Bus where
  /-- The number of the next subscription. -/
  nextId : SubscriptionId
  /-- The registered subscriptions in the order of subscription. -/
  registered : List SubscriptionId
  /-- The subscriptions whose flag has been cleared. -/
  retired : List SubscriptionId
  /-- The running publications, innermost first. -/
  running : List Publication
  deriving Repr

/-- A bus without subscriptions; the first one will have the number one. -/
def Bus.empty : Bus := ⟨1, [], [], []⟩

/-! ## Moves and events -/

/-- An act on a bus. -/
inductive BusMove where
  /-- A subscriber is registered. -/
  | subscribe
  /-- A subscription is removed. -/
  | unsubscribe (id : SubscriptionId)
  /-- A message is published. -/
  | publish (message : Message)
  /-- The delivery of the innermost running publication ends. -/
  | finish (outcome : Outcome)
  deriving Repr

/-- What can be seen of a bus. -/
inductive BusEvent where
  /-- A subscription has been registered under its number. -/
  | subscribed (id : SubscriptionId)
  /-- A subscription was to be removed, and whether there was one. -/
  | unsubscribed (id : SubscriptionId) (removed : Bool)
  /-- The delivery of a message to a subscription starts. -/
  | called (id : SubscriptionId) (message : Message)
  /-- The delivery to a subscription has ended. -/
  | finished (id : SubscriptionId) (outcome : Outcome)
  /-- A publication has ended, with the number of deliveries that were accepted. -/
  | published (message : Message) (accepted : Nat)
  deriving Repr

namespace Bus

/-- The flag of a subscription. -/
def isActive (bus : Bus) (id : SubscriptionId) : Bool := !bus.retired.contains id

/-- Goes on with a publication: calls the next subscription that is still active, or ends
the publication if there is none. -/
def turn (bus : Bus) (message : Message) (accepted : Nat) :
    List SubscriptionId → Bus × List BusEvent
  | [] => (bus, [.published message accepted])
  | id :: pending =>
    if bus.isActive id then
      ({ bus with running := ⟨message, id, pending, accepted⟩ :: bus.running },
        [.called id message])
    else turn bus message accepted pending

/-- Registers a subscriber. -/
def subscribe (bus : Bus) : Bus × List BusEvent :=
  ({ bus with nextId := bus.nextId + 1, registered := bus.registered ++ [bus.nextId] },
    [.subscribed bus.nextId])

/-- Removes a subscription and clears its flag, if it is registered. -/
def unsubscribe (bus : Bus) (id : SubscriptionId) : Bus × List BusEvent :=
  if bus.registered.contains id then
    ({ bus with registered := bus.registered.erase id, retired := id :: bus.retired },
      [.unsubscribed id true])
  else (bus, [.unsubscribed id false])

/-- Ends the delivery that the innermost publication waits for. -/
def finish (bus : Bus) (outcome : Outcome) : Bus × List BusEvent :=
  match bus.running with
  | [] => (bus, [])
  | publication :: outer =>
    let (bus, events) := turn { bus with running := outer } publication.message
      (publication.accepted + outcome.count) publication.pending
    (bus, .finished publication.current outcome :: events)

/-- The bus after a move, and what can be seen of it. -/
def step (bus : Bus) : BusMove → Bus × List BusEvent
  | .subscribe => bus.subscribe
  | .unsubscribe id => bus.unsubscribe id
  | .publish message => bus.turn message 0 bus.registered
  | .finish outcome => bus.finish outcome

/-- The bus after moves, and what can be seen of them. -/
def run (bus : Bus) : List BusMove → Bus × List BusEvent
  | [] => (bus, [])
  | move :: moves =>
    let (bus, events) := bus.step move
    let (bus, later) := run bus moves
    (bus, events ++ later)

/-- The delivery that the innermost publication waits for. -/
def calling? (bus : Bus) : Option (SubscriptionId × Message) :=
  bus.running.head?.map fun publication => (publication.current, publication.message)

end Bus

/-! ## Log lines -/

/-- The log line about a delivery that was not accepted. -/
def Outcome.logLine? (subscriber : String) : Outcome → Option LogLine
  | .accepted => none
  | .refused cause =>
    some ⟨.warn, "delivery failed",
      [("subscriber", .string subscriber), ("label", .string cause.label)]⟩
  | .panicked info =>
    some ⟨.error, "subscriber panicked",
      [("subscriber", .string subscriber), ("info", .string (panicText info))]⟩

/-- The log line about an event, given the names of subscribers. -/
def BusEvent.logLine? (name : SubscriptionId → String) : BusEvent → Option LogLine
  | .finished id outcome => outcome.logLine? (name id)
  | _ => none

end ReportRelay
