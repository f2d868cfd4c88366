/-
# The slots of a bus

What holds of a bus after any moves: the registered subscriptions ascend and were all given
out before, and a subscription that was ever given out is active exactly while it is
registered.  The second fact is what a running publication relies on, which knows its
subscriptions from the time of its start and looks at their flags alone.
-/
import ReportRelay.Bus

namespace ReportRelay.Bus

/-- A number has been given out to a subscription. -/
def IsCreated (bus : Bus) (id : SubscriptionId) : Prop := 0 < id ∧ id < bus.nextId

/-- The invariant of a bus. -/
structure Sound (bus : Bus) : Prop where
  /-- Zero is not given out. -/
  nextId_pos : 0 < bus.nextId
  /-- The registered subscriptions are in the order of their numbers. -/
  ascending : bus.registered.Pairwise (· < ·)
  /-- Only subscriptions that were given out are registered. -/
  created : ∀ id ∈ bus.registered, bus.IsCreated id
  /-- The flags that are cleared are those of the subscriptions that were removed. -/
  mem_retired : ∀ id, id ∈ bus.retired ↔ bus.IsCreated id ∧ id ∉ bus.registered
  /-- A running publication goes through subscriptions in the order of their numbers. -/
  snapshot_ascending : ∀ p ∈ bus.running, (p.current :: p.pending).Pairwise (· < ·)
  /-- A running publication goes through subscriptions that were given out. -/
  snapshot_created : ∀ p ∈ bus.running, ∀ id ∈ p.current :: p.pending, bus.IsCreated id

/-- A bus without subscriptions is sound. -/
theorem sound_empty : empty.Sound where
  nextId_pos := Nat.one_pos
  ascending := .nil
  created := by simp [empty]
  mem_retired := by
    intro id
    simp only [empty, IsCreated, List.not_mem_nil, not_false_eq_true, and_true, false_iff]
    exact fun h => absurd h.1 (Nat.not_lt.mpr (Nat.le_of_lt_succ h.2))
  snapshot_ascending := by simp [empty]
  snapshot_created := by simp [empty]

/-- A subscription that was given out is active exactly while it is registered. -/
theorem Sound.isActive_iff {bus : Bus} (h : bus.Sound) {id : SubscriptionId}
    (hid : bus.IsCreated id) : bus.isActive id = true ↔ id ∈ bus.registered := by
  simp only [isActive, Bool.not_eq_true', List.contains_eq_mem, decide_eq_false_iff_not,
    h.mem_retired id, hid, true_and, Decidable.not_not]

/-- The next number is not registered. -/
theorem Sound.nextId_notMem {bus : Bus} (h : bus.Sound) : bus.nextId ∉ bus.registered :=
  fun hmem => absurd (h.created _ hmem).2 (Nat.lt_irrefl _)

/-- No subscription is registered twice. -/
theorem Sound.nodup {bus : Bus} (h : bus.Sound) : bus.registered.Nodup :=
  h.ascending.imp Nat.ne_of_lt

/-- Removing a subscription that is not registered changes nothing. -/
theorem unsubscribe_of_notMem {bus : Bus} {id : SubscriptionId} (hid : id ∉ bus.registered) :
    (bus.unsubscribe id).1 = bus := by
  simp [unsubscribe, hid]

/-- Removing a registered subscription takes it out and clears its flag. -/
theorem unsubscribe_of_mem {bus : Bus} {id : SubscriptionId} (hid : id ∈ bus.registered) :
    (bus.unsubscribe id).1
      = { bus with registered := bus.registered.erase id, retired := id :: bus.retired } := by
  simp [unsubscribe, hid]

/-- Removing a subscription shows whether it was registered. -/
theorem unsubscribe_events (bus : Bus) (id : SubscriptionId) :
    (bus.unsubscribe id).2 = [.unsubscribed id (decide (id ∈ bus.registered))] := by
  by_cases hid : id ∈ bus.registered <;> simp [unsubscribe, hid]

/-- Removing a subscription leaves no other out, and does not register any. -/
theorem Sound.mem_unsubscribe {bus : Bus} (h : bus.Sound) {id other : SubscriptionId} :
    other ∈ (bus.unsubscribe id).1.registered ↔ other ≠ id ∧ other ∈ bus.registered := by
  by_cases hid : id ∈ bus.registered
  · rw [unsubscribe_of_mem hid]
    exact h.nodup.mem_erase_iff
  · rw [unsubscribe_of_notMem hid]
    exact ⟨fun hother => ⟨fun heq => hid (heq ▸ hother), hother⟩, And.right⟩

/-- Removing a subscription gives out no number and leaves the publications running. -/
theorem unsubscribe_frame (bus : Bus) (id : SubscriptionId) :
    (bus.unsubscribe id).1.nextId = bus.nextId ∧
      (bus.unsubscribe id).1.running = bus.running := by
  by_cases hid : id ∈ bus.registered
  · rw [unsubscribe_of_mem hid]
    exact ⟨rfl, rfl⟩
  · rw [unsubscribe_of_notMem hid]
    exact ⟨rfl, rfl⟩

@[simp] theorem unsubscribe_nextId (bus : Bus) (id : SubscriptionId) :
    (bus.unsubscribe id).1.nextId = bus.nextId :=
  (unsubscribe_frame bus id).1

@[simp] theorem unsubscribe_running (bus : Bus) (id : SubscriptionId) :
    (bus.unsubscribe id).1.running = bus.running :=
  (unsubscribe_frame bus id).2

/-! ## What a turn does -/

/-- A turn passes over the subscriptions that are not active, and then either ends the
publication or calls the first active one. -/
theorem turn_cases (bus : Bus) (message : Message) (accepted : Nat)
    (pending : List SubscriptionId) :
    ((∀ id ∈ pending, bus.isActive id = false) ∧
      bus.turn message accepted pending = (bus, [.published message accepted])) ∨
    ∃ skipped id rest, pending = skipped ++ id :: rest ∧
      (∀ other ∈ skipped, bus.isActive other = false) ∧ bus.isActive id = true ∧
      bus.turn message accepted pending
        = ({ bus with running := ⟨message, id, rest, accepted⟩ :: bus.running },
            [.called id message]) := by
  induction pending with
  | nil => exact Or.inl ⟨by simp, rfl⟩
  | cons first pending ih =>
      by_cases hfirst : bus.isActive first
      · exact Or.inr ⟨[], first, pending, rfl, by simp, hfirst, by simp [turn, hfirst]⟩
      · have hturn : bus.turn message accepted (first :: pending)
            = bus.turn message accepted pending := by simp [turn, hfirst]
        rw [Bool.not_eq_true] at hfirst
        rcases ih with ⟨hall, heq⟩ | ⟨skipped, id, rest, rfl, hskip, hid, heq⟩
        · refine Or.inl ⟨?_, by rw [hturn, heq]⟩
          simpa [hfirst] using hall
        · refine Or.inr ⟨first :: skipped, id, rest, rfl, ?_, hid, by rw [hturn, heq]⟩
          simpa [hfirst] using hskip

/-- A turn leaves all but the running publications as it is. -/
theorem turn_frame (bus : Bus) (message : Message) (accepted : Nat)
    (pending : List SubscriptionId) :
    (bus.turn message accepted pending).1.nextId = bus.nextId ∧
      (bus.turn message accepted pending).1.registered = bus.registered ∧
      (bus.turn message accepted pending).1.retired = bus.retired := by
  rcases turn_cases bus message accepted pending with ⟨-, h⟩ | ⟨_, _, _, -, -, -, h⟩ <;>
    rw [h] <;> exact ⟨rfl, rfl, rfl⟩

@[simp] theorem turn_nextId (bus : Bus) (message : Message) (accepted : Nat)
    (pending : List SubscriptionId) :
    (bus.turn message accepted pending).1.nextId = bus.nextId :=
  (turn_frame bus message accepted pending).1

@[simp] theorem turn_registered (bus : Bus) (message : Message) (accepted : Nat)
    (pending : List SubscriptionId) :
    (bus.turn message accepted pending).1.registered = bus.registered :=
  (turn_frame bus message accepted pending).2.1

@[simp] theorem turn_retired (bus : Bus) (message : Message) (accepted : Nat)
    (pending : List SubscriptionId) :
    (bus.turn message accepted pending).1.retired = bus.retired :=
  (turn_frame bus message accepted pending).2.2

/-- A publication that a turn leaves running was running before or goes on with a part of
the subscriptions that it was given. -/
theorem mem_turn_running {bus : Bus} {message : Message} {accepted : Nat}
    {pending : List SubscriptionId} {p : Publication}
    (hp : p ∈ (bus.turn message accepted pending).1.running) :
    p ∈ bus.running ∨
      p.message = message ∧ ∃ skipped, pending = skipped ++ p.current :: p.pending := by
  rcases turn_cases bus message accepted pending with
    ⟨-, h⟩ | ⟨skipped, id, rest, hsplit, -, -, h⟩
  · rw [h] at hp
    exact Or.inl hp
  · rw [h] at hp
    rcases List.mem_cons.mp hp with rfl | hp
    · exact Or.inr ⟨rfl, skipped, hsplit⟩
    · exact Or.inl hp

/-- The end of a delivery gives out no number and registers or removes no subscription. -/
theorem finish_frame (bus : Bus) (outcome : Outcome) :
    (bus.finish outcome).1.nextId = bus.nextId ∧
      (bus.finish outcome).1.registered = bus.registered := by
  cases hrun : bus.running with
  | nil => simp [finish, hrun]
  | cons publication outer => simp [finish, hrun]

@[simp] theorem finish_nextId (bus : Bus) (outcome : Outcome) :
    (bus.finish outcome).1.nextId = bus.nextId :=
  (finish_frame bus outcome).1

@[simp] theorem finish_registered (bus : Bus) (outcome : Outcome) :
    (bus.finish outcome).1.registered = bus.registered :=
  (finish_frame bus outcome).2

/-- A publication that runs after the end of a delivery is one that ran before, or what is
left of the innermost one. -/
theorem mem_finish_running {bus : Bus} {outcome : Outcome} {p : Publication}
    (hp : p ∈ (bus.finish outcome).1.running) :
    ∃ q ∈ bus.running, p.message = q.message ∧
      (p = q ∨ ∀ id ∈ p.current :: p.pending, id ∈ q.pending) := by
  cases hrun : bus.running with
  | nil => simp [finish, hrun] at hp
  | cons publication outer =>
      simp only [finish, hrun] at hp
      rcases mem_turn_running hp with hp | ⟨hmessage, skipped, hsplit⟩
      · exact ⟨p, List.mem_cons_of_mem _ hp, rfl, Or.inl rfl⟩
      · refine ⟨publication, List.mem_cons_self, hmessage, Or.inr fun id hid => ?_⟩
        rw [hsplit]
        exact List.mem_append_right _ hid

/-! ## Moves keep a bus sound -/

/-- A turn through given subscriptions in their order keeps a bus sound. -/
theorem Sound.turn {bus : Bus} (h : bus.Sound) (message : Message) (accepted : Nat)
    {pending : List SubscriptionId} (hasc : pending.Pairwise (· < ·))
    (hcreated : ∀ id ∈ pending, bus.IsCreated id) :
    (bus.turn message accepted pending).1.Sound where
  nextId_pos := by simpa using h.nextId_pos
  ascending := by simpa using h.ascending
  created := by simpa [IsCreated] using h.created
  mem_retired := by simpa [IsCreated] using h.mem_retired
  snapshot_ascending := by
    intro p hp
    rcases mem_turn_running hp with hp | ⟨-, skipped, rfl⟩
    · exact h.snapshot_ascending p hp
    · exact hasc.sublist (List.sublist_append_right _ _)
  snapshot_created := by
    intro p hp id hid
    simp only [IsCreated, turn_nextId]
    rcases mem_turn_running hp with hp | ⟨-, skipped, rfl⟩
    · exact h.snapshot_created p hp id hid
    · exact hcreated id (List.mem_append_right _ hid)

/-- A new subscription keeps a bus sound. -/
theorem Sound.subscribe {bus : Bus} (h : bus.Sound) : bus.subscribe.1.Sound where
  nextId_pos := Nat.succ_pos _
  ascending := by
    simp only [Bus.subscribe, List.pairwise_append]
    refine ⟨h.ascending, by simp, ?_⟩
    intro id hid other hother
    rw [List.mem_singleton.mp hother]
    exact (h.created id hid).2
  created := by
    intro id hid
    rcases List.mem_append.mp hid with hid | hid
    · exact ⟨(h.created id hid).1, Nat.lt_succ_of_lt (h.created id hid).2⟩
    · rw [List.mem_singleton.mp hid]
      exact ⟨h.nextId_pos, Nat.lt_succ_self _⟩
  mem_retired := by
    intro id
    have hmem := h.mem_retired id
    simp only [Bus.subscribe, IsCreated, List.mem_append, List.mem_singleton] at hmem ⊢
    rw [hmem, Nat.lt_succ_iff_lt_or_eq]
    constructor
    · rintro ⟨⟨h0, hlt⟩, hnot⟩
      exact ⟨⟨h0, Or.inl hlt⟩, not_or.mpr ⟨hnot, Nat.ne_of_lt hlt⟩⟩
    · rintro ⟨⟨h0, hlt⟩, hnot⟩
      obtain ⟨hnot, hne⟩ := not_or.mp hnot
      exact ⟨⟨h0, hlt.resolve_right hne⟩, hnot⟩
  snapshot_ascending := h.snapshot_ascending
  snapshot_created := by
    intro p hp id hid
    have hcreated := h.snapshot_created p hp id hid
    exact ⟨hcreated.1, Nat.lt_succ_of_lt hcreated.2⟩

/-- A new subscription gives out its number. -/
theorem Sound.isCreated_subscribe {bus : Bus} (h : bus.Sound) (id : SubscriptionId) :
    bus.subscribe.1.IsCreated id ↔ bus.IsCreated id ∨ id = bus.nextId := by
  have hpos := h.nextId_pos
  simp only [IsCreated, Bus.subscribe]
  rw [Nat.lt_succ_iff_lt_or_eq, and_or_left]
  exact or_congr_right ⟨And.right, fun heq => ⟨heq ▸ hpos, heq⟩⟩

/-- Removing a subscription keeps a bus sound. -/
theorem Sound.unsubscribe {bus : Bus} (h : bus.Sound) (id : SubscriptionId) :
    (bus.unsubscribe id).1.Sound := by
  by_cases hid : id ∈ bus.registered
  · rw [unsubscribe_of_mem hid]
    exact {
      nextId_pos := h.nextId_pos
      ascending := h.ascending.sublist List.erase_sublist
      created := fun other hother => h.created other (List.mem_of_mem_erase hother)
      mem_retired := by
        intro other
        have hmem := h.mem_retired other
        have hcreated := h.created id hid
        simp only [List.mem_cons, h.nodup.mem_erase_iff, IsCreated] at hmem hcreated ⊢
        by_cases heq : other = id
        · subst heq
          simp [hcreated]
        · simp only [heq, false_or, hmem, ne_eq, not_false_eq_true, true_and]
      snapshot_ascending := h.snapshot_ascending
      snapshot_created := h.snapshot_created }
  · rw [unsubscribe_of_notMem hid]
    exact h

/-- A bus without its innermost publication is sound. -/
theorem Sound.outer {bus : Bus} (h : bus.Sound) {publication : Publication}
    {outer : List Publication} (hrun : bus.running = publication :: outer) :
    Sound { bus with running := outer } :=
  { h with
    snapshot_ascending := fun p hp => h.snapshot_ascending p (by simp [hrun, hp])
    snapshot_created := fun p hp => h.snapshot_created p (by simp [hrun, hp]) }

/-- The end of a delivery keeps a bus sound. -/
theorem Sound.finish {bus : Bus} (h : bus.Sound) (outcome : Outcome) :
    (bus.finish outcome).1.Sound := by
  cases hrun : bus.running with
  | nil => simpa only [Bus.finish, hrun] using h
  | cons publication outer =>
      have hasc := h.snapshot_ascending publication (by simp [hrun])
      have hcreated := h.snapshot_created publication (by simp [hrun])
      simp only [Bus.finish, hrun]
      exact (h.outer hrun).turn _ _ (List.pairwise_cons.mp hasc).2
        (fun id hid => hcreated id (List.mem_cons_of_mem _ hid))

/-- A move keeps a bus sound. -/
theorem Sound.step {bus : Bus} (h : bus.Sound) (move : BusMove) : (bus.step move).1.Sound := by
  cases move with
  | subscribe => exact h.subscribe
  | unsubscribe id => exact h.unsubscribe id
  | publish message => exact h.turn message 0 h.ascending h.created
  | finish outcome => exact h.finish outcome

/-- Moves keep a bus sound. -/
theorem Sound.run {bus : Bus} (h : bus.Sound) (moves : List BusMove) :
    (bus.run moves).1.Sound := by
  induction moves generalizing bus with
  | nil => exact h
  | cons move moves ih => exact ih (h.step move)

end ReportRelay.Bus
