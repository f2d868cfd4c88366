/-
# Delivery of messages to subscribers

What comes of handing a message to a subscriber.  A subscriber may refuse a message or
fail while it takes it; neither reaches the publisher or the other subscribers.
-/

namespace ReportRelay

/-- Why a subscriber refuses a message. -/
inductive DeliveryError where
  /-- Its queue has overflowed. -/
  | lagged
  /-- Its connection is gone. -/
  | closed
  deriving DecidableEq, Repr

namespace DeliveryError

/-- The short name of the cause in logs. -/
def label : DeliveryError → String
  | lagged => "delivery_lagged"
  | closed => "delivery_closed"

/-- The text that says what follows from the refusal. -/
def message : DeliveryError → String
  | lagged => "subscriber queue full, stream will be closed"
  | closed => "subscriber connection is gone"

/-- The text that states the cause alone. -/
def display : DeliveryError → String
  | lagged => "subscriber queue full"
  | closed => "subscriber closed"

end DeliveryError

/-- What comes of handing a message to a subscriber. -/
inductive Outcome where
  /-- The subscriber has accepted the message. -/
  | accepted
  /-- The subscriber has refused the message. -/
  | refused (cause : DeliveryError)
  /-- The subscriber has panicked, with a text if it gave one.  It may panic with any value, of
  which nothing but a text is looked at.  What the value does when it is dropped is left out
  here: subscriptions that it removes then are as good as removed by the subscriber before the
  end of the delivery, and if it panics in its turn, that ends more than the delivery
  (`HubAct.escape`). -/
  | panicked (info : Option String)
  deriving DecidableEq, Repr

namespace Outcome

/-- Tells whether the message was accepted. -/
def isAccepted : Outcome → Bool
  | accepted => true
  | _ => false

/-- How much an outcome adds to the count of accepted messages. -/
def count (outcome : Outcome) : Nat := if outcome.isAccepted then 1 else 0

/-- The text of a panic, or a stand-in for one without text. -/
def panicText (info : Option String) : String := info.getD "unknown panic"

end Outcome

end ReportRelay
