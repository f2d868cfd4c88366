/-
# A relay as a hub with queues beside it

The moves of a relay drive its hub by moves of the hub: a viewer that is attached is a
subscriber that is attached, and the delivery of a message to a queue ends with the outcome
that the queue gives.  So a run of a relay is, for its hub, a run of the hub (`run_hub`), and
all that holds of a hub holds of the hub of a relay.
-/
import ReportRelay.Proofs.Hub.Calls
import ReportRelay.Relay

namespace ReportRelay

namespace Relay

/-! ## The moves and events of the hub -/

/-- The event of the hub that an event of a relay is. -/
def hubEvent? : RelayEvent → Option HubEvent
  | .hub event => some event
  | .received _ _ => none

/-- The events of the hub among those of a relay. -/
def hubEvents (events : List RelayEvent) : List HubEvent := events.filterMap hubEvent?

@[simp] theorem hubEvents_append (events later : List RelayEvent) :
    hubEvents (events ++ later) = hubEvents events ++ hubEvents later :=
  List.filterMap_append

@[simp] theorem hubEvents_map_hub (events : List HubEvent) :
    hubEvents (events.map .hub) = events := by
  rw [hubEvents, List.filterMap_map]
  exact List.filterMap_some

/-- An event of the hub is one of the events of the relay. -/
theorem mem_hubEvents {event : HubEvent} {events : List RelayEvent} :
    event ∈ hubEvents events ↔ .hub event ∈ events := by
  rw [hubEvents, List.mem_filterMap]
  constructor
  · rintro ⟨shown, hmem, hshown⟩
    cases shown with
    | hub shown =>
        cases hshown
        exact hmem
    | received other what => cases hshown
  · intro hmem
    exact ⟨_, hmem, rfl⟩

/-- The move of the hub that a move of a relay makes. -/
def hubMove? (relay : Relay) : RelayMove → Option HubMove
  | .hub (.finish outcome) => if relay.delivering?.isSome then none else some (.finish outcome)
  | .hub move => some move
  | .attachViewer _ => some .attach
  | .deliver =>
    relay.delivering?.map fun (_, message, queue) => .finish (queue.deliver message).2
  | .receive _ => none
  | .dropReceiver _ => none

/-- The moves of the hub that moves of a relay make. -/
def hubMoves (relay : Relay) : List RelayMove → List HubMove
  | [] => []
  | move :: moves => (relay.hubMove? move).toList ++ hubMoves (relay.step move).1 moves

/-- A move of a relay is a move of its hub, or none. -/
theorem step_hub (relay : Relay) (move : RelayMove) :
    ((relay.step move).1.hub, hubEvents (relay.step move).2)
      = relay.hub.run (relay.hubMove? move).toList := by
  -- closing queues and adding one are nothing to the hub
  have hone : ∀ moved : HubMove,
      relay.hub.run (some moved).toList = relay.hub.step moved := by
    intro moved
    simp [Hub.run]
  have hmoved : ∀ (queues : List (SubscriptionId × Queue Message)) (moved : HubMove),
      ((afterHub { relay with queues := queues } (relay.hub.step moved)).1.hub,
        hubEvents (afterHub { relay with queues := queues } (relay.hub.step moved)).2)
        = relay.hub.step moved := by
    intro queues moved
    simp [afterHub, sweep]
  cases move with
  | hub move =>
      cases move with
      | finish outcome =>
          cases hdelivering : relay.delivering? with
          | none =>
              simp only [step, finish, hubMove?, hdelivering, Option.isSome_none,
                Bool.false_eq_true, if_false, hone]
              exact hmoved relay.queues (.finish outcome)
          | some delivery =>
              simp [step, finish, hubMove?, hdelivering, hubEvents, Hub.run]
      | ingest report => exact (hmoved relay.queues _).trans (hone _).symm
      | attach => exact (hmoved relay.queues _).trans (hone _).symm
      | detach id => exact (hmoved relay.queues _).trans (hone _).symm
      | release id => exact (hmoved relay.queues _).trans (hone _).symm
      | discard id => exact (hmoved relay.queues _).trans (hone _).symm
  | attachViewer capacity =>
      simp only [step, attachViewer, hubMove?, hone]
      by_cases hbusy : relay.hub.isBusy
      · simp [hbusy, Hub.step, hubEvents]
      · rw [if_neg hbusy]
        exact hmoved _ .attach
  | deliver =>
      cases hdelivering : relay.delivering? with
      | none => simp [step, deliver, hubMove?, hdelivering, hubEvents, Hub.run]
      | some delivery =>
          obtain ⟨id, message, queue⟩ := delivery
          simp only [step, deliver, hubMove?, hdelivering, Option.map_some, hone]
          exact hmoved _ (.finish _)
  | receive id =>
      cases hqueue : relay.queue? id <;>
        simp [step, receive, hqueue, hubMove?, hubEvents, hubEvent?, Hub.run, updateQueue]
  | dropReceiver id => simp [step, hubMove?, hubEvents, Hub.run, updateQueue]

/-- Receiving is nothing to the hub. -/
theorem step_receive_hub (relay : Relay) (id : SubscriptionId) :
    (relay.step (.receive id)).1.hub = relay.hub :=
  congrArg Prod.fst (step_hub relay (.receive id))

end Relay

namespace Hub

/-- Moves of a hub may be made in two runs. -/
theorem run_append (hub : Hub) (moves later : List HubMove) :
    hub.run (moves ++ later)
      = (((hub.run moves).1.run later).1,
        (hub.run moves).2 ++ ((hub.run moves).1.run later).2) := by
  induction moves generalizing hub with
  | nil => simp [run]
  | cons move moves ih => simp [run, ih]

end Hub

namespace Relay

/-- **A run of a relay is a run of its hub.** -/
theorem run_hub (relay : Relay) (moves : List RelayMove) :
    ((relay.run moves).1.hub, hubEvents (relay.run moves).2)
      = relay.hub.run (relay.hubMoves moves) := by
  induction moves generalizing relay with
  | nil => rfl
  | cons move moves ih =>
      have hstep := step_hub relay move
      have hlater := ih (relay.step move).1
      rw [hubMoves, Hub.run_append, ← hstep]
      simp only [run, hubEvents_append]
      rw [← hlater]

/-- Moves of a relay may be made in two runs. -/
theorem run_append (relay : Relay) (moves later : List RelayMove) :
    relay.run (moves ++ later)
      = (((relay.run moves).1.run later).1,
        (relay.run moves).2 ++ ((relay.run moves).1.run later).2) := by
  induction moves generalizing relay with
  | nil => simp [run]
  | cons move moves ih => simp [run, ih]

/-! ## What viewers receive -/

/-- What an event shows a viewer to receive. -/
def receivedBy? (id : SubscriptionId) : RelayEvent → Option (Received Message)
  | .hub _ => none
  | .received other what => if other = id then some what else none

/-- What events show a viewer to receive, in their order. -/
def received (id : SubscriptionId) (events : List RelayEvent) : List (Received Message) :=
  events.filterMap (receivedBy? id)

@[simp] theorem received_nil (id : SubscriptionId) : received id [] = [] := rfl

@[simp] theorem received_append (id : SubscriptionId) (events later : List RelayEvent) :
    received id (events ++ later) = received id events ++ received id later :=
  List.filterMap_append

@[simp] theorem received_map_hub (id : SubscriptionId) (events : List HubEvent) :
    received id (events.map .hub) = [] := by
  simp [received, receivedBy?]

@[simp] theorem received_singleton (id other : SubscriptionId) (what : Received Message) :
    received id [.received other what] = if other = id then [what] else [] := by
  by_cases h : other = id <;> simp [received, receivedBy?, h]

/-! ## Queues of viewers -/

/-- The queue of a viewer after all queues are changed. -/
theorem lookup_map_entry (change : SubscriptionId → Queue Message → Queue Message)
    (queues : List (SubscriptionId × Queue Message)) (id : SubscriptionId) :
    (queues.map fun entry => (entry.1, change entry.1 entry.2)).lookup id
      = (queues.lookup id).map (change id) := by
  induction queues with
  | nil => rfl
  | cons entry queues ih =>
      rcases entry with ⟨key, queue⟩
      by_cases hid : id = key
      · simp [hid]
      · have hbeq : (id == key) = false := beq_false_of_ne hid
        simp only [List.map_cons, List.lookup_cons, hbeq]
        exact ih

/-- Changing the queue of a viewer changes no other. -/
theorem queue?_updateQueue (relay : Relay) (id other : SubscriptionId)
    (change : Queue Message → Queue Message) :
    (relay.updateQueue id change).queue? other
      = if other = id then (relay.queue? id).map change else relay.queue? other := by
  have hmap := lookup_map_entry (fun key queue => if key = id then change queue else queue)
    relay.queues other
  have hentries : (fun entry : SubscriptionId × Queue Message =>
      if entry.1 = id then (entry.1, change entry.2) else entry)
        = fun entry => (entry.1, if entry.1 = id then change entry.2 else entry.2) := by
    funext entry
    split <;> rfl
  rw [queue?, updateQueue, hentries, hmap]
  by_cases hid : other = id
  · simp [hid, queue?]
  · simp [hid, queue?]

/-- The queues of viewers when one is added behind them. -/
theorem queue?_append (relay : Relay) (id : SubscriptionId) (queue : Queue Message)
    (other : SubscriptionId) :
    queue? { relay with queues := relay.queues ++ [(id, queue)] } other
      = (relay.queue? other).or (if other = id then some queue else none) := by
  rw [queue?, List.lookup_append, queue?]
  by_cases hid : other = id
  · simp [hid]
  · have hbeq : (other == id) = false := beq_false_of_ne hid
    simp [List.lookup_cons, hbeq, hid]

/-- A queue of a viewer was there before another was added, or is the one that was added. -/
theorem eq_of_queue?_append (relay : Relay) (id : SubscriptionId) (queue : Queue Message)
    {other : SubscriptionId} {found : Queue Message}
    (hfound : queue? { relay with queues := relay.queues ++ [(id, queue)] } other = some found) :
    relay.queue? other = some found ∨ (other = id ∧ found = queue) := by
  rw [queue?_append, Option.or_eq_some_iff] at hfound
  refine hfound.imp_right fun ⟨_, hif⟩ => ?_
  by_cases hid : other = id
  · rw [if_pos hid, Option.some.injEq] at hif
    exact ⟨hid, hif.symm⟩
  · rw [if_neg hid] at hif
    cases hif

/-- After a move of the hub the queues are closed of those whom it does not hold. -/
theorem queue?_afterHub (relay : Relay) (moved : Hub × List HubEvent) (id : SubscriptionId) :
    (relay.afterHub moved).1.queue? id
      = (relay.queue? id).map fun queue =>
          if holds moved.1 id then queue else queue.dropSink := by
  have hmap := lookup_map_entry
    (fun key queue => if holds moved.1 key then queue else queue.dropSink) relay.queues id
  have hentries : (fun entry : SubscriptionId × Queue Message =>
      if holds moved.1 entry.1 then entry else (entry.1, entry.2.dropSink))
        = fun entry =>
            (entry.1, if holds moved.1 entry.1 then entry.2 else entry.2.dropSink) := by
    funext entry
    split <;> rfl
  rw [afterHub, sweep, queue?, hentries]
  exact hmap

/-- The hub holds those whom it may still call. -/
theorem holds_iff (hub : Hub) (id : SubscriptionId) : holds hub id = true ↔ hub.IsHeld id := by
  simp only [holds, Bool.or_eq_true, Bool.and_eq_true, List.contains_iff_mem, List.any_eq_true,
    beq_iff_eq, Hub.IsHeld, Hub.IsPresent, Hub.IsJoining, List.mem_cons]
  constructor
  · rintro ((hreg | ⟨publication, hp, hmem⟩) | ⟨hreplay, hnext⟩)
    · exact Or.inl (Or.inl hreg)
    · exact Or.inr ⟨publication, hp, hmem.imp_left Eq.symm⟩
    · exact Or.inl (Or.inr ⟨hreplay, hnext.symm⟩)
  · rintro ((hreg | ⟨hreplay, hnext⟩) | ⟨publication, hp, hmem⟩)
    · exact Or.inl (Or.inl hreg)
    · exact Or.inr ⟨hreplay, hnext.symm⟩
    · exact Or.inl (Or.inr ⟨publication, hp, hmem.imp_left Eq.symm⟩)

/-- An idle hub holds exactly the registered subscribers. -/
theorem holds_idle {hub : Hub} (hidle : hub.isBusy = false) (id : SubscriptionId) :
    holds hub id = hub.bus.registered.contains id := by
  obtain ⟨hreplay, hrun⟩ := hub.not_isBusy_iff.mp hidle
  simp [holds, hreplay, hrun]

/-- The queue of the viewer that the hub waits for is its own. -/
theorem delivering?_eq_some {relay : Relay} {id : SubscriptionId} {message : Message}
    {queue : Queue Message} :
    relay.delivering? = some (id, message, queue)
      ↔ relay.hub.calling? = some (id, message) ∧ relay.queue? id = some queue := by
  rw [delivering?]
  cases hcall : relay.hub.calling? with
  | none => simp
  | some call =>
      obtain ⟨other, waiting⟩ := call
      simp only [Option.map_eq_some_iff, Prod.mk.injEq, Option.some.injEq]
      constructor
      · rintro ⟨_, hqueue, rfl, rfl, rfl⟩
        exact ⟨⟨rfl, rfl⟩, hqueue⟩
      · rintro ⟨⟨rfl, rfl⟩, hqueue⟩
        exact ⟨queue, hqueue, rfl, rfl, rfl⟩

/-- A delivery to a queue is the end of a delivery of the hub, with what the queue gives. -/
theorem deliver_eq {relay : Relay} {id : SubscriptionId} {message : Message}
    {queue : Queue Message} (h : relay.delivering? = some (id, message, queue)) :
    relay.deliver
      = (relay.updateQueue id fun _ => (queue.deliver message).1).afterHub
          (relay.hub.step (.finish (queue.deliver message).2)) := by
  rw [deliver, h]
  rfl

/-- A viewer receives what its queue gives. -/
theorem receive_eq {relay : Relay} {id : SubscriptionId} {queue : Queue Message}
    (h : relay.queue? id = some queue) :
    relay.receive id
      = (relay.updateQueue id fun _ => queue.receive.1, [.received id queue.receive.2]) := by
  rw [receive, h]

/-- A viewer that the hub does not wait for takes nothing. -/
theorem inHand_of_not_delivering {relay : Relay} (hnone : relay.delivering? = none)
    {id : SubscriptionId} {queue : Queue Message} (hqueue : relay.queue? id = some queue) :
    relay.hub.inHand id = [] := by
  cases hcall : relay.hub.calling? with
  | none => exact Hub.inHand_of_none hcall id
  | some call =>
      obtain ⟨other, message⟩ := call
      rw [Hub.inHand_of_calling hcall]
      refine if_neg fun heq => ?_
      subst heq
      rw [delivering?_eq_some.mpr ⟨hcall, hqueue⟩] at hnone
      cases hnone

end Relay

end ReportRelay
