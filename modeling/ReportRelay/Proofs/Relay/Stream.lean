/-
# What a viewer receives

`Relay.Serves` is the invariant of a relay and of all that has been seen of it: every queue has
served its ends, where the messages handed over are those that the hub has handed to the viewer
and the messages received are those that the viewer has received.  Every move keeps it, in
whatever order the moves of the hub and of the viewers come.

With what the ledger says of the hub, the messages that a viewer has received are at every
point a prefix of those that it is due (`received_of_run`).
-/
import ReportRelay.Proofs.Hub.Delivery
import ReportRelay.Proofs.Queue
import ReportRelay.Proofs.Relay.Moves

namespace ReportRelay

namespace Relay

/-! ## The invariant -/

/-- The messages that events show a viewer to receive, in their order. -/
def got (id : SubscriptionId) (events : List RelayEvent) : List Message :=
  (received id events).filterMap Received.item?

@[simp] theorem got_append (id : SubscriptionId) (events later : List RelayEvent) :
    got id (events ++ later) = got id events ++ got id later := by
  simp [got]

/-- Events show that a delivery to a viewer was refused because its queue had no room. -/
def Overflowed (id : SubscriptionId) (events : List RelayEvent) : Prop :=
  RelayEvent.hub (.finished id (.refused .lagged)) ∈ events

/-- An overflow is an event of the hub. -/
theorem overflowed_iff (id : SubscriptionId) (events : List RelayEvent) :
    Overflowed id events ↔ HubEvent.finished id (.refused .lagged) ∈ hubEvents events :=
  mem_hubEvents.symm

/-- The queues of a relay have served the viewers, as the events show. -/
structure Serves (relay : Relay) (events : List RelayEvent) : Prop where
  /-- The hub is sound. -/
  sound : relay.hub.Sound
  /-- The viewers are subscribers that have been or are being attached. -/
  known : ∀ id queue, relay.queue? id = some queue → relay.hub.IsKnown id
  /-- Their queues have served them. -/
  queue : ∀ id queue, relay.queue? id = some queue →
    queue.Serves (holds relay.hub id) (handed id (hubEvents events)) (relay.hub.inHand id)
      (got id events) (Overflowed id events)
  /-- Only viewers have received anything. -/
  others : ∀ id, relay.queue? id = none → received id events = []
  /-- Nothing has been handed to whom nobody has attached. -/
  unknown : ∀ id, ¬relay.hub.IsKnown id → handed id (hubEvents events) = [] ∧
    ∀ outcome, HubEvent.finished id outcome ∉ hubEvents events

variable {config : HubConfig} {relay : Relay} {events : List RelayEvent}

/-- A relay that has not been moved has served nobody. -/
theorem serves_ofConfig (config : HubConfig) : (ofConfig config).Serves [] where
  sound := Hub.sound_ofConfig config
  known := fun _ _ h => by cases h
  queue := fun _ _ h => by cases h
  others := fun _ _ => rfl
  unknown := fun _ _ => ⟨rfl, fun _ h => by cases h⟩

/-! ## Moves of the hub -/

/-- A move of the hub keeps the invariant if the queues that are there when it is made have
served their ends, as far as the delivery that the move may end. -/
theorem Serves.moved (h : relay.Serves events) (move : HubMove)
    {ready : Relay} (hnone : ∀ id, ready.queue? id = none → relay.queue? id = none)
    (hknown : ∀ id queue, ready.queue? id = some queue → (relay.hub.step move).1.IsKnown id)
    (hqueue : ∀ id queue, ready.queue? id = some queue →
      ∃ held, (holds (relay.hub.step move).1 id = true → held = true) ∧
        queue.Serves held (handed id (hubEvents events)) (relay.hub.inHandLeft id move)
          (got id events)
          (Overflowed id events ∨
            HubEvent.finished id (.refused .lagged) ∈ (relay.hub.step move).2)) :
    let moved := ready.afterHub (relay.hub.step move)
    moved.1.Serves (events ++ moved.2) := by
  intro moved
  have hlookup : ∀ id, moved.1.queue? id = (ready.queue? id).map fun queue =>
      if holds (relay.hub.step move).1 id then queue else queue.dropSink :=
    fun id => queue?_afterHub _ _ id
  have hhub : moved.1.hub = (relay.hub.step move).1 := rfl
  have hevents : hubEvents (events ++ moved.2) = hubEvents events ++ (relay.hub.step move).2 := by
    rw [hubEvents_append]
    exact congrArg _ (hubEvents_map_hub _)
  have hreceived : ∀ id, received id moved.2 = [] := fun id => received_map_hub id _
  constructor
  · exact h.sound.step move
  · intro id queue hid
    rw [hlookup, Option.map_eq_some_iff] at hid
    obtain ⟨before, hbefore, -⟩ := hid
    exact hknown id before hbefore
  · intro id queue hid
    rw [hlookup, Option.map_eq_some_iff] at hid
    obtain ⟨before, hbefore, rfl⟩ := hid
    -- first the move hands over what it does, then the queues of those not held are closed
    obtain ⟨held, hheld, hserves⟩ := hqueue id before hbefore
    have hover : Overflowed id (events ++ moved.2) = (Overflowed id events ∨
        HubEvent.finished id (.refused .lagged) ∈ (relay.hub.step move).2) := by
      rw [overflowed_iff, overflowed_iff, hevents, List.mem_append]
    rw [hhub, hevents, handed_append, got_append, got, got, hreceived, List.filterMap_nil,
      List.append_nil, hover]
    exact (hserves.offer (h.sound.inHand_step move id)).sweep hheld
  · intro id hid
    rw [hlookup, Option.map_eq_none_iff] at hid
    rw [received_append, h.others id (hnone id hid), hreceived, List.append_nil]
  · intro id hid
    have hbefore : ¬relay.hub.IsKnown id := fun hid' => hid (h.sound.isKnown_step move hid')
    obtain ⟨hhanded, hfinished⟩ := h.unknown id hbefore
    obtain ⟨hnew, hquiet⟩ := h.sound.quiet_step move hid
    rw [hevents, handed_append, hhanded, hnew]
    refine ⟨rfl, fun outcome hmem => ?_⟩
    exact (List.mem_append.mp hmem).elim (hfinished outcome) (hquiet outcome)

/-- A move of the hub keeps whom it holds among the viewers. -/
theorem Serves.holds_of_step (h : relay.Serves events) (move : HubMove) {id : SubscriptionId}
    {queue : Queue Message} (hqueue : relay.queue? id = some queue)
    (hheld : holds (relay.hub.step move).1 id = true) : holds relay.hub id = true :=
  (holds_iff _ _).mpr
    (h.sound.isHeld_of_step move (h.known id queue hqueue) ((holds_iff _ _).mp hheld))

/-- A viewer to which a move ends no delivery has been served when the move begins. -/
theorem Serves.queue_of_quiet (h : relay.Serves events) {move : HubMove} {id : SubscriptionId}
    {queue : Queue Message} (hqueue : relay.queue? id = some queue)
    (hleft : relay.hub.inHandLeft id move = relay.hub.inHand id)
    (hquiet : HubEvent.finished id (.refused .lagged) ∉ (relay.hub.step move).2) :
    queue.Serves (holds relay.hub id) (handed id (hubEvents events))
      (relay.hub.inHandLeft id move) (got id events)
      (Overflowed id events ∨
        HubEvent.finished id (.refused .lagged) ∈ (relay.hub.step move).2) := by
  have hover : (Overflowed id events ∨
      HubEvent.finished id (.refused .lagged) ∈ (relay.hub.step move).2)
        = Overflowed id events := by
    simp [hquiet]
  rw [hleft, hover]
  exact h.queue id queue hqueue

/-- A move of the hub that ends no delivery keeps the invariant. -/
theorem Serves.hub (h : relay.Serves events) {move : HubMove}
    (hmove : ∀ outcome, move ≠ .finish outcome) :
    let moved := relay.afterHub (relay.hub.step move)
    moved.1.Serves (events ++ moved.2) := by
  refine h.moved move (fun id hid => hid) (fun id queue hid => ?_) (fun id queue hid => ?_)
  · exact h.sound.isKnown_step move (h.known id queue hid)
  · refine ⟨_, h.holds_of_step move hid, h.queue_of_quiet hid ?_ ?_⟩
    · exact Hub.inHandLeft_of_ne hmove id
    · exact h.sound.finished_notMem_step hmove id _

/-- The end of a delivery to a subscriber that is no viewer keeps the invariant. -/
theorem Serves.finish (h : relay.Serves events) (outcome : Outcome) :
    (relay.finish outcome).1.Serves (events ++ (relay.finish outcome).2) := by
  rw [Relay.finish]
  cases hdelivering : relay.delivering? with
  | some delivery => simpa using h
  | none =>
      refine h.moved (.finish outcome) (fun id hid => hid) (fun id queue hid => ?_)
        (fun id queue hid => ?_)
      · exact h.sound.isKnown_step _ (h.known id queue hid)
      · have hinHand := inHand_of_not_delivering hdelivering hid
        refine ⟨_, h.holds_of_step _ hid, h.queue_of_quiet hid hinHand.symm fun hmem => ?_⟩
        obtain ⟨-, message, hcall⟩ := Hub.mem_finish.mp hmem
        rw [Hub.inHand_of_calling hcall, if_pos rfl] at hinHand
        cases hinHand

/-- The delivery of a message to its queue keeps the invariant. -/
theorem Serves.deliver (h : relay.Serves events) :
    relay.deliver.1.Serves (events ++ relay.deliver.2) := by
  cases hdelivering : relay.delivering? with
  | none => simpa [Relay.deliver, hdelivering] using h
  | some delivery =>
      obtain ⟨id, message, queue⟩ := delivery
      rw [deliver_eq hdelivering]
      obtain ⟨hcall, hqueue⟩ := delivering?_eq_some.mp hdelivering
      have hlookup : ∀ other,
          (relay.updateQueue id fun _ => (queue.deliver message).1).queue? other
            = if other = id then some (queue.deliver message).1 else relay.queue? other := by
        intro other
        rw [queue?_updateQueue, hqueue, Option.map_some]
      refine h.moved (.finish (queue.deliver message).2) (fun other hother => ?_)
        (fun other after hother => ?_) (fun other after hother => ?_)
      · rw [hlookup] at hother
        by_cases hid : other = id
        · rw [if_pos hid] at hother
          cases hother
        · rwa [if_neg hid] at hother
      · rw [hlookup] at hother
        refine h.sound.isKnown_step _ ?_
        by_cases hid : other = id
        · rw [hid]
          exact h.known id queue hqueue
        · rw [if_neg hid] at hother
          exact h.known other after hother
      · -- for the viewer that takes the message the queue decides; to others the end is nothing
        rw [hlookup] at hother
        have hfinished : HubEvent.finished other (.refused .lagged)
            ∈ (relay.hub.finish (queue.deliver message).2).2
              ↔ id = other ∧ (queue.deliver message).2 = .refused .lagged := by
          rw [Hub.mem_finish, hcall]
          constructor
          · rintro ⟨houtcome, _, heq⟩
            cases heq
            exact ⟨rfl, houtcome.symm⟩
          · rintro ⟨rfl, houtcome⟩
            exact ⟨houtcome.symm, message, rfl⟩
        -- the message in hand is the one that the queue takes or refuses
        have hinHand := Hub.inHand_of_calling hcall other
        by_cases hid : other = id
        · subst hid
          rw [if_pos rfl, Option.some.injEq] at hother
          subst hother
          have hserves := h.queue other queue hqueue
          rw [hinHand, if_pos rfl] at hserves
          refine ⟨_, h.holds_of_step _ hqueue, ?_⟩
          have hover : (HubEvent.finished other (.refused .lagged)
              ∈ (relay.hub.step (.finish (queue.deliver message).2)).2)
                = ((queue.deliver message).2 = .refused .lagged) := by
            rw [Hub.step, hfinished]
            simp
          rw [hover]
          exact hserves.deliver
        · rw [if_neg hid] at hother
          rw [if_neg (Ne.symm hid)] at hinHand
          refine ⟨_, h.holds_of_step _ hother, h.queue_of_quiet hother hinHand.symm ?_⟩
          rw [Hub.step, hfinished]
          exact fun hmem => hid hmem.1.symm

/-- No queue is there yet under the number that an idle hub gives out next. -/
theorem Serves.queue?_nextId (h : relay.Serves events) (hidle : relay.hub.isBusy = false) :
    relay.queue? relay.hub.bus.nextId = none := by
  cases hqueue : relay.queue? relay.hub.bus.nextId with
  | none => rfl
  | some queue => exact absurd (h.known _ queue hqueue) (Hub.not_isKnown_nextId hidle)

/-- The attachment of a viewer keeps the invariant. -/
theorem Serves.attachViewer (h : relay.Serves events) (capacity : Nat) :
    (relay.attachViewer capacity).1.Serves (events ++ (relay.attachViewer capacity).2) := by
  rw [Relay.attachViewer]
  cases hbusy : relay.hub.isBusy with
  | true => simpa using h
  | false =>
      rw [if_neg Bool.false_ne_true]
      -- numbers are given out once
      have hnew := Hub.not_isKnown_nextId hbusy
      have hstep : relay.hub.step .attach = relay.hub.replayOn 0 relay.hub.history.items := by
        simp [Hub.step, hbusy]
      have hquiet : ∀ id, HubEvent.finished id (.refused .lagged) ∉ (relay.hub.step .attach).2 :=
        fun id => h.sound.finished_notMem_step (fun _ heq => by cases heq) id _
      refine h.moved .attach (fun id hid => ?_) (fun id queue hid => ?_) (fun id queue hid => ?_)
      · rw [queue?_append] at hid
        exact (Option.or_eq_none_iff.mp hid).1
      · rcases eq_of_queue?_append _ _ _ hid with hold | ⟨rfl, -⟩
        · exact h.sound.isKnown_step .attach (h.known id queue hold)
        · rw [hstep, Hub.isKnown_replayOn h.sound]
          exact Or.inr rfl
      · rcases eq_of_queue?_append _ _ _ hid with hold | ⟨rfl, rfl⟩
        · exact ⟨_, h.holds_of_step .attach hold, h.queue_of_quiet hold rfl (hquiet id)⟩
        · -- nothing has ever happened under the number that is given out now
          obtain ⟨hhanded, hfinished⟩ := h.unknown _ hnew
          have hnone := h.queue?_nextId hbusy
          have hinHand : relay.hub.inHandLeft relay.hub.bus.nextId .attach = [] :=
            Hub.inHand_of_none (Hub.calling?_idle hbusy) _
          refine ⟨true, fun _ => rfl, ?_⟩
          rw [hhanded, hinHand, got, h.others _ hnone]
          refine Queue.serves_ofCapacity capacity ?_
          rw [overflowed_iff]
          exact fun hover => hover.elim (hfinished _) (hquiet _)

/-! ## Acts of viewers -/

/-- An act of a viewer on its queue keeps the invariant if the queue goes on serving. -/
theorem Serves.act (h : relay.Serves events) {id : SubscriptionId}
    {change : Queue Message → Queue Message} {new : List RelayEvent}
    (hhub : hubEvents new = []) (hothers : ∀ other, other ≠ id → received other new = [])
    (hviewer : relay.queue? id = none → received id new = [])
    (hqueue : ∀ queue, relay.queue? id = some queue →
      queue.Serves (holds relay.hub id) (handed id (hubEvents events)) (relay.hub.inHand id)
        (got id events) (Overflowed id events) →
      (change queue).Serves (holds relay.hub id) (handed id (hubEvents events))
        (relay.hub.inHand id) (got id events ++ got id new) (Overflowed id events)) :
    (relay.updateQueue id change).Serves (events ++ new) := by
  have hevents : hubEvents (events ++ new) = hubEvents events := by
    rw [hubEvents_append, hhub, List.append_nil]
  have hover : ∀ other, Overflowed other (events ++ new) = Overflowed other events := by
    intro other
    rw [overflowed_iff, overflowed_iff, hevents]
  have hlookup := fun other => queue?_updateQueue relay id other change
  constructor
  · exact h.sound
  · intro other queue hother
    rw [hlookup] at hother
    by_cases hid : other = id
    · rw [if_pos hid, Option.map_eq_some_iff] at hother
      obtain ⟨before, hbefore, -⟩ := hother
      rw [hid]
      exact h.known id before hbefore
    · rw [if_neg hid] at hother
      exact h.known other queue hother
  · intro other queue hother
    rw [hlookup] at hother
    rw [hevents, hover, got_append]
    by_cases hid : other = id
    · subst hid
      rw [if_pos rfl, Option.map_eq_some_iff] at hother
      obtain ⟨before, hbefore, rfl⟩ := hother
      exact hqueue before hbefore (h.queue other before hbefore)
    · rw [if_neg hid] at hother
      have hnew : got other new = [] := by rw [got, hothers other hid, List.filterMap_nil]
      rw [hnew, List.append_nil]
      exact h.queue other queue hother
  · intro other hother
    rw [hlookup] at hother
    rw [received_append]
    by_cases hid : other = id
    · subst hid
      rw [if_pos rfl, Option.map_eq_none_iff] at hother
      rw [h.others other hother, hviewer hother, List.append_nil]
    · rw [if_neg hid] at hother
      rw [h.others other hother, hothers other hid, List.append_nil]
  · intro other hother
    rw [hevents]
    exact h.unknown other hother

/-- A viewer that receives keeps the invariant. -/
theorem Serves.receive (h : relay.Serves events) (id : SubscriptionId) :
    (relay.receive id).1.Serves (events ++ (relay.receive id).2) := by
  cases hqueue : relay.queue? id with
  | none => simpa [Relay.receive, hqueue] using h
  | some queue =>
      rw [receive_eq hqueue]
      show (relay.updateQueue id fun _ => queue.receive.1).Serves
        (events ++ [.received id queue.receive.2])
      refine h.act rfl (fun other hid => ?_) (fun hnone => ?_)
        (fun before hbefore hserves => ?_)
      · simp [Ne.symm hid]
      · rw [hqueue] at hnone
        cases hnone
      · rw [hqueue, Option.some.injEq] at hbefore
        subst hbefore
        have hreceive := hserves.receive
        have hgot : got id [.received id queue.receive.2] = queue.receive.2.item?.toList := by
          rw [got, received_singleton, if_pos rfl]
          cases queue.receive.2 <;> rfl
        rw [hgot]
        exact hreceive

/-- A viewer that gives up its queue keeps the invariant. -/
theorem Serves.dropReceiver (h : relay.Serves events) (id : SubscriptionId) :
    (relay.updateQueue id Queue.dropReceiver).Serves events := by
  have hact : (relay.updateQueue id Queue.dropReceiver).Serves (events ++ []) :=
    h.act rfl (fun _ _ => rfl) (fun _ => rfl)
      fun queue _ hserves => by simpa [got] using hserves.dropReceiver
  simpa using hact

/-! ## Runs -/

/-- A move keeps the invariant. -/
theorem Serves.step (h : relay.Serves events) (move : RelayMove) :
    (relay.step move).1.Serves (events ++ (relay.step move).2) := by
  cases move with
  | hub move =>
      cases move with
      | finish outcome => exact h.finish outcome
      | ingest report => exact h.hub fun _ heq => by cases heq
      | attach => exact h.hub fun _ heq => by cases heq
      | detach id => exact h.hub fun _ heq => by cases heq
      | release id => exact h.hub fun _ heq => by cases heq
      | discard id => exact h.hub fun _ heq => by cases heq
  | attachViewer capacity => exact h.attachViewer capacity
  | deliver => exact h.deliver
  | receive id => exact h.receive id
  | dropReceiver id => simpa [Relay.step] using h.dropReceiver id

/-- Moves keep the invariant. -/
theorem Serves.run (h : relay.Serves events) (moves : List RelayMove) :
    (relay.run moves).1.Serves (events ++ (relay.run moves).2) := by
  induction moves generalizing relay events with
  | nil => simpa [Relay.run] using h
  | cons move moves ih =>
      have hlater := ih (h.step move)
      simpa only [Relay.run, List.append_assoc] using hlater

end Relay

end ReportRelay
