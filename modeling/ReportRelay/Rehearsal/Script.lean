/-
# Scripted subscribers

A scripted subscriber does on each delivery what its script says: it notes the delivery in
a journal, removes and adds subscriptions, publishes a follow-up of the report, and ends
the delivery with the outcome that is next on its list.
-/
import ReportRelay.Bus

namespace ReportRelay

/-- What a scripted subscriber does on each delivery. -/
structure Script where
  /-- The name of the subscriber. -/
  label : String
  /-- The outcomes of its deliveries, over and over; accepted if there is none. -/
  outcomes : List Outcome
  /-- The subscriptions that it removes. -/
  removes : List SubscriptionId
  /-- The subscribers that it adds. -/
  adds : List Script
  /-- Reports with a number below this one are followed up by one with the next number. -/
  followUpBelow : Nat
  deriving Repr

/-- A scripted subscriber and the number of deliveries that it has taken. -/
structure Actor where
  /-- The script. -/
  script : Script
  /-- The number of deliveries. -/
  calls : Nat
  deriving Repr

/-- What is noted of scripted subscribers. -/
inductive JournalEntry where
  /-- A delivery, with the type of the message and the identifier of its report. -/
  | delivered (label kind : String) (id : Json)
  /-- A removal, and whether the subscription was registered. -/
  | removed (label : String) (registered : Bool)
  /-- An added subscription. -/
  | added (label : String) (id : SubscriptionId)
  /-- The end of a follow-up, with the number of deliveries that were accepted. -/
  | followedUp (label : String) (accepted : Nat)
  deriving Repr

/-- The identifier of the report of a message, null if there is none. -/
def Message.reportId : Message → Json
  | newReport report => (report.get? "id").getD .null
  | unknown => .null

namespace Actor

/-- The outcome of the delivery that follows those already taken. -/
def outcome (actor : Actor) : Outcome :=
  (actor.script.outcomes[actor.calls % actor.script.outcomes.length]?).getD .accepted

/-- The note of a delivery. -/
def note (actor : Actor) (message : Message) : JournalEntry :=
  .delivered actor.script.label message.label message.reportId

end Actor

namespace Script

/-- The message that follows a message up, if the script asks for one. -/
def followUp? (script : Script) (message : Message) : Option Message :=
  match message.reportId.word? with
  | none => none
  | some n =>
    if n.toNat < script.followUpBelow then
      some (.newReport (.ofMembers [("id", .ofNat (n.toNat + 1))]))
    else none

mutual

/-- A bound on how deep follow-ups of a script, and of those that it adds, can be
nested. -/
def depth : Script → Nat
  | ⟨_, _, _, adds, followUpBelow⟩ => max followUpBelow (depthAll adds)

/-- The greatest bound of several scripts. -/
def depthAll : List Script → Nat
  | [] => 0
  | script :: scripts => max (depth script) (depthAll scripts)

end

end Script

/-- Changes the value under a key. -/
def updateAt {α β : Type} [DecidableEq α] (key : α) (change : β → β) (entries : List (α × β)) :
    List (α × β) :=
  entries.map fun entry => if entry.1 = key then (entry.1, change entry.2) else entry

end ReportRelay
