/-
# What a viewer does to the others

A viewer that does not receive, or gives up its queue, makes the queue refuse messages.  Two
runs of a relay are compared that differ in what one viewer does and in the room of its queue
(`Varied`).  They pass through relays whose hubs are the same without counts and whose queues
are the same but for that of the viewer (`Alike`), so the other viewers receive the same.
-/
import ReportRelay.Proofs.Hub.Isolation
import ReportRelay.Proofs.Relay.Moves

namespace ReportRelay

namespace Relay

/-! ## Relays that differ in one queue -/

/-- Relays that are the same without counts and without the queue of a viewer. -/
structure Alike (id : SubscriptionId) (relay twin : Relay) : Prop where
  hub : relay.hub.uncounted = twin.hub.uncounted
  queues : ∀ other, other ≠ id → relay.queue? other = twin.queue? other
  viewer : (relay.queue? id).isSome = (twin.queue? id).isSome

/-- What two moves have in common that leave such relays: the other viewers receive the same. -/
structure Agrees (id : SubscriptionId) (moved twin : Relay × List RelayEvent) : Prop where
  alike : Alike id moved.1 twin.1
  others : ∀ other, other ≠ id → received other moved.2 = received other twin.2

variable {id : SubscriptionId} {relay twin : Relay}

/-- A relay differs nowhere from itself. -/
theorem Alike.refl (id : SubscriptionId) (relay : Relay) : Alike id relay relay :=
  ⟨rfl, fun _ _ => rfl, rfl⟩

theorem Alike.symm (h : Alike id relay twin) : Alike id twin relay :=
  ⟨h.hub.symm, fun other hother => (h.queues other hother).symm, h.viewer.symm⟩

theorem Agrees.symm {moved other : Relay × List RelayEvent} (h : Agrees id moved other) :
    Agrees id other moved :=
  ⟨h.alike.symm, fun viewer hviewer => (h.others viewer hviewer).symm⟩

/-- Nothing is received where nothing is done. -/
theorem Alike.stay (h : Alike id relay twin) : Agrees id (relay, []) (twin, []) :=
  ⟨h, fun _ _ => rfl⟩

/-- Moves may follow. -/
theorem Agrees.append {after afterTwin : Relay}
    {events eventsTwin later laterTwin : List RelayEvent}
    (h : Agrees id (relay, events) (twin, eventsTwin))
    (hlater : Agrees id (after, later) (afterTwin, laterTwin)) :
    Agrees id (after, events ++ later) (afterTwin, eventsTwin ++ laterTwin) := by
  refine ⟨hlater.alike, fun viewer hviewer => ?_⟩
  have hbefore : received viewer events = received viewer eventsTwin := h.others viewer hviewer
  have hafter : received viewer later = received viewer laterTwin := hlater.others viewer hviewer
  rw [received_append, received_append, hbefore, hafter]

/-! ## Moves -/

/-- Hubs that are the same without counts hold the same subscribers. -/
theorem holds_of_uncounted {hub other : Hub} (h : hub.uncounted = other.uncounted)
    (viewer : SubscriptionId) : holds hub viewer = holds other viewer := by
  have hholds : ∀ counted : Hub, holds counted.uncounted viewer = holds counted viewer := by
    intro counted
    simp only [holds, Hub.uncounted, Bus.uncounted, List.any_map, Option.isSome_map]
    rfl
  rw [← hholds hub, ← hholds other, h]

/-- The queue of the viewer may change on one side. -/
theorem Alike.updateOwn (h : Alike id relay twin) (change : Queue Message → Queue Message) :
    Alike id (relay.updateQueue id change) twin where
  hub := h.hub
  queues := by
    intro other hother
    rw [queue?_updateQueue, if_neg hother]
    exact h.queues other hother
  viewer := by
    rw [queue?_updateQueue, if_pos rfl, Option.isSome_map]
    exact h.viewer

/-- The queue of another viewer may change on both sides. -/
theorem Alike.updateOther (h : Alike id relay twin) {viewer : SubscriptionId}
    (hviewer : viewer ≠ id) (change : Queue Message → Queue Message) :
    Alike id (relay.updateQueue viewer change) (twin.updateQueue viewer change) where
  hub := h.hub
  queues := by
    intro other hother
    rw [queue?_updateQueue, queue?_updateQueue, h.queues viewer hviewer, h.queues other hother]
  viewer := by
    rw [queue?_updateQueue, queue?_updateQueue, if_neg hviewer.symm, if_neg hviewer.symm]
    exact h.viewer

/-- Moves of the hubs that leave the same without counts are nothing to the viewers. -/
theorem Alike.afterHub (h : Alike id relay twin) {moved other : Hub × List HubEvent}
    (hmoved : moved.1.uncounted = other.1.uncounted) :
    Agrees id (relay.afterHub moved) (twin.afterHub other) where
  alike := {
    hub := hmoved
    queues := by
      intro viewer hviewer
      rw [queue?_afterHub, queue?_afterHub, holds_of_uncounted hmoved, h.queues viewer hviewer]
    viewer := by
      rw [queue?_afterHub, queue?_afterHub, Option.isSome_map, Option.isSome_map]
      exact h.viewer }
  others := by
    intro viewer _
    exact (received_map_hub viewer _).trans (received_map_hub viewer _).symm

/-- Whether a relay waits for a viewer does not depend on the queue of one. -/
theorem Alike.isSome_delivering? (h : Alike id relay twin) :
    relay.delivering?.isSome = twin.delivering?.isSome := by
  have hcalling := Hub.calling?_of_uncounted h.hub
  rw [delivering?, delivering?, ← hcalling]
  cases relay.hub.calling? with
  | none => rfl
  | some call =>
      obtain ⟨viewer, message⟩ := call
      simp only [Option.isSome_map]
      by_cases hviewer : viewer = id
      · subst hviewer
        exact h.viewer
      · rw [h.queues viewer hviewer]

/-- A delivery to a queue does the same for the others, whatever the queue of the viewer makes of
it. -/
theorem Alike.deliver (h : Alike id relay twin) : Agrees id relay.deliver twin.deliver := by
  have hsome := h.isSome_delivering?
  cases hdelivering : relay.delivering? with
  | none =>
      have htwin : twin.delivering? = none := by simpa [hdelivering] using hsome
      rw [Relay.deliver, Relay.deliver, hdelivering, htwin]
      exact h.stay
  | some delivery =>
      obtain ⟨viewer, message, queue⟩ := delivery
      obtain ⟨hcalling, hqueue⟩ := delivering?_eq_some.mp hdelivering
      have hcallingTwin := hcalling
      rw [Hub.calling?_of_uncounted h.hub] at hcallingTwin
      by_cases hviewer : viewer = id
      · -- the queues may give different answers, which the hubs do not notice
        subst hviewer
        have hviewerTwin := h.viewer
        rw [hqueue, Option.isSome_some, eq_comm, Option.isSome_iff_exists] at hviewerTwin
        obtain ⟨other, hother⟩ := hviewerTwin
        rw [deliver_eq hdelivering, deliver_eq (delivering?_eq_some.mpr ⟨hcallingTwin, hother⟩)]
        have hfinish : veil viewer (relay.hub.step (.finish (queue.deliver message).2))
            = veil viewer (twin.hub.step (.finish (other.deliver message).2)) :=
          Hub.veil_finish h.hub (Or.inr ⟨message, hcalling⟩)
        exact ((h.updateOwn _).symm.updateOwn _).symm.afterHub (congrArg Prod.fst hfinish)
      · have hother : twin.queue? viewer = some queue := by rw [← h.queues viewer hviewer, hqueue]
        rw [deliver_eq hdelivering, deliver_eq (delivering?_eq_some.mpr ⟨hcallingTwin, hother⟩)]
        have hfinish := Hub.veil_step h.hub id (.finish (queue.deliver message).2)
        exact (h.updateOther hviewer _).afterHub (congrArg Prod.fst hfinish)

/-- The end of a delivery to a subscriber that is no viewer does the same for the viewers. -/
theorem Alike.finish (h : Alike id relay twin) (outcome : Outcome) :
    Agrees id (relay.finish outcome) (twin.finish outcome) := by
  rw [Relay.finish, Relay.finish, h.isSome_delivering?]
  split
  · exact h.stay
  · exact h.afterHub (congrArg Prod.fst (Hub.veil_step h.hub id (.finish outcome)))

/-- Attaching a viewer does the same for the others, whatever room the queue has that is its
own. -/
theorem Alike.attachViewer (h : Alike id relay twin) {capacity room : Nat}
    (hroom : capacity = room ∨ relay.hub.bus.nextId = id) :
    Agrees id (relay.attachViewer capacity) (twin.attachViewer room) := by
  rw [Relay.attachViewer, Relay.attachViewer, Hub.isBusy_of_uncounted h.hub]
  split
  · exact h.stay
  · have hnext : relay.hub.bus.nextId = twin.hub.bus.nextId :=
      (Bus.uncounted_eq_iff.mp (Hub.uncounted_eq_iff.mp h.hub).2.2.1).1
    have hadded : Alike id
        { relay with queues := relay.queues ++ [(relay.hub.bus.nextId, .ofCapacity capacity)] }
        { twin with queues := twin.queues ++ [(twin.hub.bus.nextId, .ofCapacity room)] } := by
      refine ⟨h.hub, ?_, ?_⟩
      · intro other hother
        rw [queue?_append, queue?_append, h.queues other hother, ← hnext]
        rcases hroom with rfl | hid
        · rfl
        · rw [if_neg (hid ▸ hother), if_neg (hid ▸ hother)]
      · rw [queue?_append, queue?_append, Option.isSome_or, Option.isSome_or, h.viewer, ← hnext]
        split <;> rfl
    exact hadded.afterHub (congrArg Prod.fst (Hub.veil_step h.hub id .attach))

/-- What a viewer does with its own queue: it receives, or gives the queue up. -/
inductive Own (id : SubscriptionId) : RelayMove → Prop
  | receive : Own id (.receive id)
  | dropReceiver : Own id (.dropReceiver id)

/-- What a viewer does with its own queue is nothing to the others. -/
theorem Alike.own (h : Alike id relay twin) {move : RelayMove} (hmove : Own id move) :
    Agrees id (relay.step move) (twin, []) := by
  cases hmove with
  | dropReceiver => exact (h.updateOwn _).stay
  | receive =>
      cases hqueue : relay.queue? id with
      | none =>
          rw [step, Relay.receive, hqueue]
          exact h.stay
      | some queue =>
          have halike := h.updateOwn fun _ => queue.receive.1
          rw [step, receive_eq hqueue]
          refine ⟨halike, fun other hother => ?_⟩
          rw [received_singleton, if_neg hother.symm, received_nil]

/-- What a viewer does with its own queue on both sides is nothing to the others. -/
theorem Alike.own_both (h : Alike id relay twin) {move : RelayMove} (hmove : Own id move) :
    Agrees id (relay.step move) (twin.step move) := by
  have hleft := h.own hmove
  have hright := hleft.alike.symm.own hmove
  exact ⟨hright.alike.symm, fun other hother =>
    (hleft.others other hother).trans (hright.others other hother).symm⟩

/-- **A move does the same for the others on relays that differ in one queue alone.** -/
theorem Alike.step (h : Alike id relay twin) (move : RelayMove) :
    Agrees id (relay.step move) (twin.step move) := by
  have hhub : ∀ moved : HubMove, Agrees id (relay.afterHub (relay.hub.step moved))
      (twin.afterHub (twin.hub.step moved)) := fun moved =>
    h.afterHub (congrArg Prod.fst (Hub.veil_step h.hub id moved))
  cases move with
  | hub moved =>
      cases moved with
      | finish outcome => exact h.finish outcome
      | ingest report => exact hhub _
      | attach => exact hhub _
      | detach other => exact hhub _
      | release other => exact hhub _
      | discard other => exact hhub _
  | attachViewer capacity => exact h.attachViewer (Or.inl rfl)
  | deliver => exact h.deliver
  | receive viewer =>
      by_cases hviewer : viewer = id
      · exact h.own_both (hviewer ▸ .receive)
      · cases hqueue : relay.queue? viewer with
        | none =>
            have hother : twin.queue? viewer = none := by rw [← h.queues viewer hviewer, hqueue]
            rw [Relay.step, Relay.step, Relay.receive, Relay.receive, hqueue, hother]
            exact h.stay
        | some queue =>
            have hother : twin.queue? viewer = some queue := by
              rw [← h.queues viewer hviewer, hqueue]
            have halike := h.updateOther hviewer fun _ => queue.receive.1
            rw [Relay.step, Relay.step, receive_eq hqueue, receive_eq hother]
            exact ⟨halike, fun _ _ => rfl⟩
  | dropReceiver viewer =>
      by_cases hviewer : viewer = id
      · exact h.own_both (hviewer ▸ .dropReceiver)
      · exact (h.updateOther hviewer _).stay

/-- A panic that escapes does the same for the viewers. -/
theorem Alike.escape (h : Alike id relay twin) (info : Option String) :
    Agrees id (relay.escape info) (twin.escape info) := by
  rw [Relay.escape, Relay.escape, h.isSome_delivering?]
  split
  · exact h.stay
  · exact h.afterHub (congrArg Prod.fst (Hub.veil_act h.hub id (.escape info)))

/-- Whatever happens does the same for the others on relays that differ in one queue alone. -/
theorem Alike.act (h : Alike id relay twin) (act : RelayAct) :
    Agrees id (relay.act act) (twin.act act) := by
  cases act with
  | move move => exact h.step move
  | escape info => exact h.escape info

/-! ## Runs -/

/-- Where no panic escapes, a relay makes moves. -/
theorem actAll_map_move (relay : Relay) (moves : List RelayMove) :
    relay.actAll (moves.map .move) = relay.run moves := by
  induction moves generalizing relay with
  | nil => rfl
  | cons move moves ih => simp only [List.map_cons, actAll, act, run, ih]

end Relay

end ReportRelay
