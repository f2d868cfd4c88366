/-
# The delivery that a hub waits for

A hub waits for one delivery at a time.  Each delivery starts with an event, is in hand until
a move ends it, and only that move shows its end.  So the messages handed to a subscriber are
those whose deliveries have ended, and the one in hand.
-/
import ReportRelay.Proofs.Hub.Ledger

namespace ReportRelay

namespace Hub

/-- The message that the hub is handing to a subscriber. -/
def inHand (hub : Hub) (id : SubscriptionId) : List Message :=
  match hub.calling? with
  | some (other, message) => if other = id then [message] else []
  | none => []

/-- A hub hands over nothing beside its one delivery. -/
theorem inHand_of_calling {hub : Hub} {other : SubscriptionId} {message : Message}
    (h : hub.calling? = some (other, message)) (id : SubscriptionId) :
    hub.inHand id = if other = id then [message] else [] := by
  rw [inHand, h]

/-- A hub that waits for no delivery hands over nothing. -/
theorem inHand_of_none {hub : Hub} (h : hub.calling? = none) (id : SubscriptionId) :
    hub.inHand id = [] := by
  rw [inHand, h]

/-- An idle hub waits for no delivery. -/
theorem calling?_idle {hub : Hub} (hidle : hub.isBusy = false) : hub.calling? = none := by
  obtain ⟨hreplay, hrun⟩ := hub.not_isBusy_iff.mp hidle
  rw [calling?, hreplay]
  simp [Bus.calling?, hrun]

/-- What is still in hand of what was, once a move has begun: the end of a delivery leaves
nothing. -/
def inHandLeft (hub : Hub) (id : SubscriptionId) : HubMove → List Message
  | .finish _ => []
  | _ => hub.inHand id

/-- A move that ends no delivery leaves in hand what was. -/
theorem inHandLeft_of_ne {hub : Hub} {move : HubMove} (hmove : ∀ outcome, move ≠ .finish outcome)
    (id : SubscriptionId) : hub.inHandLeft id move = hub.inHand id := by
  cases move with
  | finish outcome => exact absurd rfl (hmove outcome)
  | ingest report => rfl
  | attach => rfl
  | detach other => rfl
  | release other => rfl
  | discard other => rfl

/-! ## Starts of deliveries -/

/-- What a turn hands over is in hand after it. -/
theorem handed_turn_eq_inHand {hub : Hub} {bus : Bus} (hreplay : hub.replay = none)
    (hrun : bus.running = []) (message : Message) (accepted : Nat)
    (pending : List SubscriptionId) (id : SubscriptionId) :
    handed id ((bus.turn message accepted pending).2.map HubEvent.ofBus)
      = inHand { hub with bus := (bus.turn message accepted pending).1 } id := by
  rcases Bus.turn_cases bus message accepted pending with ⟨-, heq⟩ | ⟨_, called, _, -, -, -, heq⟩
  · rw [heq]
    simp [HubEvent.ofBus, inHand, calling?, hreplay, Bus.calling?, hrun]
  · rw [heq]
    simp [HubEvent.ofBus, inHand, calling?, hreplay, Bus.calling?]

/-- What a replay hands over is in hand after it. -/
theorem handed_replayOn_eq_inHand {hub : Hub} (hrun : hub.bus.running = []) (accepted : Nat)
    (pending : List Message) (id : SubscriptionId) :
    handed id (hub.replayOn accepted pending).2
      = (hub.replayOn accepted pending).1.inHand id := by
  cases pending with
  | cons message pending => simp [replayOn, inHand, calling?]
  | nil => simp [replayOn, inHand, calling?, Bus.calling?, Bus.subscribe, hrun]

/-- When a delivery ends, what is handed over is in hand after it. -/
theorem Sound.handed_finish_eq_inHand {hub : Hub} (h : hub.Sound) (outcome : Outcome)
    (id : SubscriptionId) :
    handed id (hub.finish outcome).2 = (hub.finish outcome).1.inHand id := by
  cases hreplay : hub.replay with
  | some replay =>
      have hrun := h.replay_alone (by rw [hreplay]; rfl)
      simp only [Hub.finish, hreplay, handed_finished]
      exact handed_replayOn_eq_inHand hrun _ _ id
  | none =>
      simp only [Hub.finish, hreplay, moveBus, Bus.step]
      cases hrun : hub.bus.running with
      | nil => simp [Bus.finish, hrun, inHand, calling?, Bus.calling?]
      | cons publication outer =>
          have houter : outer = [] := by simpa [hrun] using h.one_running
          simp only [Bus.finish, hrun, List.map_cons, HubEvent.ofBus, handed_finished]
          have hturn := @handed_turn_eq_inHand hub { hub.bus with running := outer } hreplay
            houter publication.message (publication.accepted + outcome.count)
            publication.pending id
          simpa only [hreplay] using hturn

/-- **Every move brings into hand what it hands over.** -/
theorem Sound.inHand_step {hub : Hub} (h : hub.Sound) (move : HubMove) (id : SubscriptionId) :
    hub.inHandLeft id move ++ handed id (hub.step move).2 = (hub.step move).1.inHand id := by
  -- a removal changes neither the replay nor the running publications, nor hands anything over
  have hremoved : ∀ other, move.removes? = some other →
      hub.inHand id ++ handed id (hub.step move).2 = (hub.step move).1.inHand id := by
    intro other hother
    have hr := h.removed_step hother
    rw [hr.handed, List.append_nil, inHand, inHand, calling?, calling?, hr.replay, hr.bus,
      Bus.unsubscribe_nextId, Bus.calling?, Bus.calling?, Bus.unsubscribe_running]
  cases move with
  | ingest report =>
      by_cases hbusy : hub.isBusy
      · simp [Hub.step, inHandLeft, hbusy]
      · rw [Bool.not_eq_true] at hbusy
        obtain ⟨hreplay, hrun⟩ := hub.not_isBusy_iff.mp hbusy
        simp only [Hub.step, inHandLeft, hbusy, Bool.false_eq_true, if_false]
        rw [inHand_of_none (calling?_idle hbusy), List.nil_append]
        exact @handed_turn_eq_inHand { hub with history := _ } _ hreplay hrun _ _ _ id
  | attach =>
      by_cases hbusy : hub.isBusy
      · simp [Hub.step, inHandLeft, hbusy]
      · rw [Bool.not_eq_true] at hbusy
        simp only [Hub.step, inHandLeft, hbusy, Bool.false_eq_true, if_false]
        rw [inHand_of_none (calling?_idle hbusy), List.nil_append]
        exact handed_replayOn_eq_inHand (hub.not_isBusy_iff.mp hbusy).2 _ _ id
  | detach other => exact hremoved other rfl
  | release other => exact hremoved other rfl
  | discard other => exact hremoved other rfl
  | finish outcome => exact h.handed_finish_eq_inHand outcome id

/-! ## Ends of deliveries -/

/-- A turn shows no end of a delivery. -/
theorem finished_notMem_turn (bus : Bus) (message : Message) (accepted : Nat)
    (pending : List SubscriptionId) (id : SubscriptionId) (outcome : Outcome) :
    HubEvent.finished id outcome
      ∉ (bus.turn message accepted pending).2.map HubEvent.ofBus := by
  rcases Bus.turn_cases bus message accepted pending with ⟨-, heq⟩ | ⟨_, _, _, -, -, -, heq⟩ <;>
    simp [heq, HubEvent.ofBus]

/-- Going on with a replay shows no end of a delivery. -/
theorem finished_notMem_replayOn (hub : Hub) (accepted : Nat) (pending : List Message)
    (id : SubscriptionId) (outcome : Outcome) :
    HubEvent.finished id outcome ∉ (hub.replayOn accepted pending).2 := by
  cases pending <;> simp [replayOn]

/-- The end of a delivery is shown for the delivery that the hub waits for, with its
outcome. -/
theorem mem_finish {hub : Hub} {id : SubscriptionId} {outcome shown : Outcome} :
    HubEvent.finished id shown ∈ (hub.finish outcome).2
      ↔ shown = outcome ∧ ∃ message, hub.calling? = some (id, message) := by
  cases hreplay : hub.replay with
  | some replay =>
      have hnot := finished_notMem_replayOn hub (replay.accepted + outcome.count) replay.pending
      simp only [finish, calling?, hreplay, List.mem_cons, hnot, or_false,
        HubEvent.finished.injEq, Option.some.injEq, Prod.mk.injEq]
      constructor
      · rintro ⟨hid, hshown⟩
        exact ⟨hshown, replay.message, hid.symm, rfl⟩
      · rintro ⟨hshown, _, hid, -⟩
        exact ⟨hid.symm, hshown⟩
  | none =>
      cases hrun : hub.bus.running with
      | nil => simp [finish, calling?, hreplay, moveBus, Bus.step, Bus.finish, Bus.calling?, hrun]
      | cons publication outer =>
          have hnot := finished_notMem_turn { hub.bus with running := outer } publication.message
            (publication.accepted + outcome.count) publication.pending
          simp only [finish, calling?, hreplay, moveBus, Bus.step, Bus.finish, Bus.calling?, hrun,
            List.map_cons, HubEvent.ofBus, List.mem_cons, hnot, or_false, List.head?_cons,
            Option.map_some, HubEvent.finished.injEq, Option.some.injEq, Prod.mk.injEq]
          constructor
          · rintro ⟨hid, hshown⟩
            exact ⟨hshown, publication.message, hid.symm, rfl⟩
          · rintro ⟨hshown, _, hid, -⟩
            exact ⟨hid.symm, hshown⟩

/-- Only the end of a delivery shows one. -/
theorem Sound.finished_notMem_step {hub : Hub} (h : hub.Sound) {move : HubMove}
    (hmove : ∀ outcome, move ≠ .finish outcome) (id : SubscriptionId) (outcome : Outcome) :
    HubEvent.finished id outcome ∉ (hub.step move).2 := by
  have hremoved : ∀ other, move.removes? = some other →
      HubEvent.finished id outcome ∉ (hub.step move).2 := by
    intro other hother hmem
    obtain ⟨removed, heq⟩ := (h.removed_step hother).events _ hmem
    cases heq
  cases move with
  | ingest report =>
      simp only [Hub.step]
      split
      · simp
      · exact finished_notMem_turn _ _ _ _ id outcome
  | attach =>
      simp only [Hub.step]
      split
      · simp
      · exact finished_notMem_replayOn hub _ _ id outcome
  | detach other => exact hremoved other rfl
  | release other => exact hremoved other rfl
  | discard other => exact hremoved other rfl
  | finish outcome => exact absurd rfl (hmove outcome)

/-! ## Who is known -/

/-- A removal forgets nobody. -/
theorem Removed.isKnown_iff {hub : Hub} {moved : Hub × List HubEvent} {removed : SubscriptionId}
    (hr : Removed removed hub moved) (id : SubscriptionId) :
    moved.1.IsKnown id ↔ hub.IsKnown id := by
  rw [IsKnown, IsJoining, Bus.IsCreated, hr.bus, hr.replay, Bus.unsubscribe_nextId]
  rfl

/-- A move forgets nobody. -/
theorem Sound.isKnown_step {hub : Hub} (h : hub.Sound) (move : HubMove) {id : SubscriptionId}
    (hid : hub.IsKnown id) : (hub.step move).1.IsKnown id := by
  have hremoved : ∀ (move : HubMove) other, move.removes? = some other →
      ((hub.step move).1.IsKnown id ↔ hub.IsKnown id) :=
    fun _ _ hother => (h.removed_step hother).isKnown_iff id
  cases move with
  | ingest report =>
      simp only [Hub.step]
      split
      · exact hid
      · simpa [Hub.ingest, moveBus, Bus.step, IsKnown, IsJoining, Bus.IsCreated] using hid
  | attach =>
      simp only [Hub.step]
      split
      · exact hid
      · rw [isKnown_replayOn h]
        exact hid.imp_right And.right
  | detach other => exact (hremoved (.detach other) other rfl).mpr hid
  | release other => exact (hremoved (.release other) other rfl).mpr hid
  | discard other => exact (hremoved (.discard other) other rfl).mpr hid
  | finish outcome =>
      simp only [Hub.step]
      cases hreplay : hub.replay with
      | some replay =>
          simp only [Hub.finish, hreplay]
          rw [isKnown_replayOn h]
          exact hid.imp_right And.right
      | none =>
          simpa [Hub.finish, hreplay, moveBus, Bus.step, IsKnown, IsJoining, Bus.IsCreated]
            using hid

/-! ## Who is held -/

/-- The hub may still call the subscription: it is registered or being attached, or the
running publication has it among those that it goes through. -/
def IsHeld (hub : Hub) (id : SubscriptionId) : Prop :=
  hub.IsPresent id ∨
    ∃ publication ∈ hub.bus.running, id ∈ publication.current :: publication.pending

/-- Whoever takes a message is held. -/
theorem isHeld_of_calling {hub : Hub} {id : SubscriptionId} {message : Message}
    (h : hub.calling? = some (id, message)) : hub.IsHeld id := by
  rw [calling?] at h
  cases hreplay : hub.replay with
  | some replay =>
      simp only [hreplay, Option.some.injEq, Prod.mk.injEq] at h
      exact Or.inl (Or.inr ⟨by rw [hreplay]; rfl, h.1.symm⟩)
  | none =>
      cases hrun : hub.bus.running with
      | nil => simp [hreplay, Bus.calling?, hrun] at h
      | cons publication outer =>
          simp only [hreplay, Bus.calling?, hrun, List.head?_cons, Option.map_some,
            Option.some.injEq, Prod.mk.injEq] at h
          exact Or.inr ⟨publication, by simp [hrun], by simp [h.1]⟩

/-- Whoever is held has been attached or is being attached. -/
theorem Sound.isKnown_of_isHeld {hub : Hub} (h : hub.Sound) {id : SubscriptionId}
    (hid : hub.IsHeld id) : hub.IsKnown id := by
  rcases hid with hpresent | ⟨publication, hp, hmem⟩
  · exact h.isKnown hpresent
  · exact Or.inl (h.bus.snapshot_created publication hp id hmem)

/-- Nothing is in hand for a subscription that is not held. -/
theorem inHand_of_not_isHeld {hub : Hub} {id : SubscriptionId} (hid : ¬hub.IsHeld id) :
    hub.inHand id = [] := by
  cases hcall : hub.calling? with
  | none => exact inHand_of_none hcall id
  | some call =>
      obtain ⟨other, message⟩ := call
      rw [inHand_of_calling hcall]
      refine if_neg fun heq => hid ?_
      rw [← heq]
      exact isHeld_of_calling hcall

/-- Nothing is outstanding for a subscription that is not held. -/
theorem outstanding_of_not_isHeld {hub : Hub} {id : SubscriptionId} (hid : ¬hub.IsHeld id) :
    hub.outstanding id = [] := by
  rw [outstanding]
  cases hreplay : hub.replay with
  | some replay =>
      refine if_neg fun heq => hid (Or.inl (Or.inr ⟨?_, heq⟩))
      rw [hreplay]
      rfl
  | none =>
      simp only [Bus.outstanding]
      cases hub.bus.running with
      | nil => rfl
      | cons publication outer => exact if_neg fun h => hid (Or.inl (Or.inl h.2))

/-- A subscription that is no longer held is never held again. -/
theorem Sound.isHeld_of_step {hub : Hub} (h : hub.Sound) (move : HubMove) {id : SubscriptionId}
    (hknown : hub.IsKnown id) (hid : (hub.step move).1.IsHeld id) : hub.IsHeld id := by
  have hremoved : ∀ other, move.removes? = some other → hub.IsHeld id := by
    intro other hother
    have hr := h.removed_step hother
    rw [IsHeld, IsPresent, IsJoining, hr.bus, hr.replay, h.bus.mem_unsubscribe,
      Bus.unsubscribe_nextId, Bus.unsubscribe_running] at hid
    exact hid.imp_left (Or.imp_left And.right)
  have hreplayOn : ∀ accepted pending, hub.bus.running = [] →
      (hub.bus.nextId = id → hub.IsPresent id) →
      (hub.replayOn accepted pending).1.IsHeld id → hub.IsHeld id := by
    rintro accepted pending hrun hnext (hpresent | ⟨p, hp, -⟩)
    · rw [isPresent_replayOn] at hpresent
      exact Or.inl (hpresent.elim Or.inl fun heq => hnext heq.symm)
    · rw [replayOn_running, hrun] at hp
      cases hp
  cases move with
  | ingest report =>
      simp only [Hub.step] at hid
      split at hid
      · exact hid
      · rcases hid with hpresent | ⟨p, hp, hmem⟩
        · refine Or.inl ?_
          simpa [Hub.ingest, moveBus, Bus.step, IsPresent, IsJoining] using hpresent
        · -- a publication that starts goes through the registered subscriptions only
          rcases Bus.mem_turn_running hp with hold | ⟨-, skipped, hsplit⟩
          · exact Or.inr ⟨p, hold, hmem⟩
          · refine Or.inl (Or.inl ?_)
            rw [show hub.bus.registered = skipped ++ p.current :: p.pending from hsplit]
            exact List.mem_append_right _ hmem
  | attach =>
      simp only [Hub.step] at hid
      split at hid
      · exact hid
      · next hbusy =>
          rw [Bool.not_eq_true] at hbusy
          refine hreplayOn _ _ (hub.not_isBusy_iff.mp hbusy).2 (fun heq => ?_) hid
          -- a number that was given out is not the next one
          have hcreated := hknown.resolve_right (not_isJoining hbusy id)
          exact absurd hcreated.2 (by rw [heq]; exact Nat.lt_irrefl _)
  | detach other => exact hremoved other rfl
  | release other => exact hremoved other rfl
  | discard other => exact hremoved other rfl
  | finish outcome =>
      simp only [Hub.step] at hid
      cases hreplay : hub.replay with
      | some replay =>
          simp only [Hub.finish, hreplay] at hid
          refine hreplayOn _ _ (h.replay_alone (by rw [hreplay]; rfl)) (fun heq => ?_) hid
          exact Or.inr ⟨by rw [hreplay]; rfl, heq.symm⟩
      | none =>
          simp only [Hub.finish, hreplay, moveBus, Bus.step] at hid
          rcases hid with hpresent | ⟨p, hp, hmem⟩
          · exact Or.inl (by simpa [IsPresent, IsJoining, hreplay] using hpresent)
          · obtain ⟨q, hq, -, rfl | hsub⟩ := Bus.mem_finish_running hp
            · exact Or.inr ⟨p, hq, hmem⟩
            · exact Or.inr ⟨q, hq, List.mem_cons_of_mem _ (hsub id hmem)⟩

/-- A move does nothing that concerns a subscription unknown after it. -/
theorem Sound.quiet_step {hub : Hub} (h : hub.Sound) (move : HubMove) {id : SubscriptionId}
    (hid : ¬(hub.step move).1.IsKnown id) :
    handed id (hub.step move).2 = [] ∧
      ∀ outcome, HubEvent.finished id outcome ∉ (hub.step move).2 := by
  have hbefore : ¬hub.IsHeld id :=
    fun hheld => hid (h.isKnown_step move (h.isKnown_of_isHeld hheld))
  have hafter : ¬(hub.step move).1.IsHeld id :=
    fun hheld => hid ((h.step move).isKnown_of_isHeld hheld)
  constructor
  · have hstep := h.inHand_step move id
    rw [inHand_of_not_isHeld hafter] at hstep
    exact (List.append_eq_nil_iff.mp hstep).2
  · intro outcome hmem
    by_cases hmove : ∃ ended, move = .finish ended
    · obtain ⟨ended, rfl⟩ := hmove
      obtain ⟨-, message, hcall⟩ := mem_finish.mp hmem
      exact hbefore (isHeld_of_calling hcall)
    · exact h.finished_notMem_step (fun ended heq => hmove ⟨ended, heq⟩) id outcome hmem

end Hub

end ReportRelay
