/-
# The slots that a bus gives out

A subscriber that is registered gets a slot, which has a number and a flag.  A running
publication keeps the slots of its start, whether they have been removed since or not, so there
are slots that no longer stand in the list of the bus and are still looked at.  What holds of all
slots that were ever given out is said with the events of a run, which show their numbers.

The numbers are given out one after another, from one on (`tallies_run`), and so none is given
out twice.  With the invariant of the bus this tells the flag of every slot from the list alone,
at each point of the publications that are running within each other (`slots_of_run`).
-/
import ReportRelay.Proofs.Bus

namespace ReportRelay

/-- The number that is given out with an event. -/
def BusEvent.given? : BusEvent → Option SubscriptionId
  | .subscribed id => some id
  | _ => none

namespace Bus

variable {bus middle after : Bus} {events later : List BusEvent} {id : SubscriptionId}

/-! ## The numbers -/

/-- The numbers that are given out with events, in their order. -/
def givenOut (events : List BusEvent) : List SubscriptionId := events.filterMap BusEvent.given?

@[simp] theorem givenOut_append (events later : List BusEvent) :
    givenOut (events ++ later) = givenOut events ++ givenOut later :=
  List.filterMap_append

/-- A turn gives out no number. -/
theorem givenOut_turn (bus : Bus) (message : Message) (accepted : Nat)
    (pending : List SubscriptionId) : givenOut (bus.turn message accepted pending).2 = [] := by
  rcases turn_cases bus message accepted pending with ⟨-, h⟩ | ⟨_, _, _, -, -, -, h⟩ <;>
    rw [h] <;> rfl

/-- The end of a delivery gives out no number. -/
theorem givenOut_finish (bus : Bus) (outcome : Outcome) :
    givenOut (bus.finish outcome).2 = [] := by
  cases hrun : bus.running with
  | nil => simp [finish, hrun, givenOut]
  | cons publication outer =>
      simp only [finish, hrun]
      exact givenOut_turn _ _ _ _

/-- Between two states of a bus, the numbers given out are those that come next, and the counter
has moved past them. -/
structure Tallies (bus after : Bus) (events : List BusEvent) : Prop where
  numbers : givenOut events = List.range' bus.nextId (givenOut events).length
  counter : after.nextId = bus.nextId + (givenOut events).length

/-- Events without a new number leave the counter. -/
theorem tallies_of_none (hgiven : givenOut events = []) (hnext : after.nextId = bus.nextId) :
    Tallies bus after events where
  numbers := by rw [hgiven]; rfl
  counter := by rw [hgiven]; exact hnext

/-- Two parts of a run tally together. -/
theorem Tallies.trans (h : Tallies bus middle events) (hlater : Tallies middle after later) :
    Tallies bus after (events ++ later) where
  numbers := by
    rw [givenOut_append, List.length_append, ← List.range'_append_1, ← h.numbers, ← h.counter,
      ← hlater.numbers]
  counter := by
    rw [hlater.counter, h.counter, givenOut_append, List.length_append, Nat.add_assoc]

/-- A move gives out at most the next number. -/
theorem tallies_step (bus : Bus) (move : BusMove) :
    Tallies bus (bus.step move).1 (bus.step move).2 := by
  cases move with
  | subscribe => exact ⟨rfl, rfl⟩
  | unsubscribe id =>
      apply tallies_of_none _ (unsubscribe_nextId bus id)
      rw [step, unsubscribe_events]
      rfl
  | publish message =>
      exact tallies_of_none (givenOut_turn bus message 0 bus.registered) (turn_nextId _ _ _ _)
  | finish outcome => exact tallies_of_none (givenOut_finish bus outcome) (finish_nextId _ _)

/-- **Numbers are given out one after another.** -/
theorem tallies_run (bus : Bus) (moves : List BusMove) :
    Tallies bus (bus.run moves).1 (bus.run moves).2 := by
  induction moves generalizing bus with
  | nil => exact tallies_of_none rfl rfl
  | cons move moves ih => exact (tallies_step bus move).trans (ih (bus.step move).1)

/-- The slots that have been given out since the beginning are those that events show. -/
theorem Tallies.mem_givenOut (h : Tallies empty bus events) :
    id ∈ givenOut events ↔ bus.IsCreated id := by
  rw [h.numbers, List.mem_range'_1, ← h.counter]
  rfl

/-! ## Removals -/

/-- A removal takes its own subscription out of the list, and leaves the others in their order. -/
theorem Sound.registered_unsubscribe (h : bus.Sound) (id : SubscriptionId) :
    (bus.unsubscribe id).1.registered = bus.registered.filter (· ≠ id) := by
  by_cases hid : id ∈ bus.registered
  · rw [unsubscribe_of_mem hid]
    show bus.registered.erase id = _
    rw [h.nodup.erase_eq_filter]
    apply List.filter_congr
    intro other _
    by_cases heq : other = id <;> simp [heq]
  · rw [unsubscribe_of_notMem hid]
    apply Eq.symm
    apply List.filter_eq_self.mpr
    intro other hother
    exact decide_eq_true fun heq => hid (heq ▸ hother)

/-- A removal leaves the flags of the other slots. -/
theorem isActive_unsubscribe_of_ne {other : SubscriptionId} (hne : other ≠ id) :
    (bus.unsubscribe id).1.isActive other = bus.isActive other := by
  by_cases hid : id ∈ bus.registered
  · rw [unsubscribe_of_mem hid]
    simp [isActive, hne]
  · rw [unsubscribe_of_notMem hid]

/-! ## The slots of a run -/

/-- **The flag of a slot tells whether it stands in the list.**  A bus is moved from its beginning
by any acts of its users and of the subscribers that are called.  Then the list is in ascending
order of the numbers, which are below the next one.  The numbers that were given out are 1, 2, 3
and so on, none of them twice, and fit into 64 bits while there are fewer than `2 ^ 64`.
The slots in the list, and those that running publications have kept from their start, were all
given out; and every slot that was given out is active exactly if it stands in the list.  A
removal takes out exactly the slot of its number, if there is one, clears its flag, and leaves
the order and the flags of all others. -/
theorem slots_of_run (moves : List BusMove) :
    let bus := (empty.run moves).1
    let events := (empty.run moves).2
    (bus.registered.Pairwise (· < ·) ∧ ∀ id ∈ bus.registered, id < bus.nextId) ∧
    (givenOut events = List.range' 1 (givenOut events).length ∧ (givenOut events).Nodup ∧
      bus.nextId = (givenOut events).length + 1 ∧
      ((givenOut events).length < UInt64.size → ∀ id ∈ givenOut events, id < UInt64.size)) ∧
    ((∀ id ∈ bus.registered, id ∈ givenOut events) ∧
      (∀ p ∈ bus.running, (p.current :: p.pending).Pairwise (· < ·) ∧
        ∀ id ∈ p.current :: p.pending, id ∈ givenOut events) ∧
      ∀ id ∈ givenOut events, bus.isActive id = true ↔ id ∈ bus.registered) ∧
    ∀ id,
      (bus.unsubscribe id).2 = [.unsubscribed id (decide (id ∈ bus.registered))] ∧
      (bus.unsubscribe id).1.registered = bus.registered.filter (· ≠ id) ∧
      (id ∈ bus.registered → (bus.unsubscribe id).1.isActive id = false) ∧
      (∀ other, other ≠ id → (bus.unsubscribe id).1.isActive other = bus.isActive other) ∧
      (bus.unsubscribe id).1.nextId = bus.nextId ∧
      (bus.unsubscribe id).1.running = bus.running ∧
      (id ∉ bus.registered → (bus.unsubscribe id).1 = bus) := by
  intro bus events
  have h : bus.Sound := sound_empty.run moves
  have htally : Tallies empty bus events := tallies_run empty moves
  have hgiven : givenOut events = List.range' 1 (givenOut events).length := htally.numbers
  refine ⟨⟨h.ascending, fun id hid => (h.created id hid).2⟩, ⟨hgiven, ?_, ?_, ?_⟩,
    ⟨fun id hid => ?_, fun p hp => ⟨h.snapshot_ascending p hp, fun id hid => ?_⟩,
      fun id hid => ?_⟩,
    fun id => ⟨unsubscribe_events bus id, h.registered_unsubscribe id, fun hid => ?_,
      fun other hne => isActive_unsubscribe_of_ne hne, unsubscribe_nextId bus id,
      unsubscribe_running bus id, unsubscribe_of_notMem⟩⟩
  · rw [hgiven]
    exact List.nodup_range'
  · rw [htally.counter, Nat.add_comm]
    rfl
  · intro hfew id hid
    rw [hgiven, List.mem_range'_1, Nat.add_comm] at hid
    exact Nat.lt_of_le_of_lt (Nat.le_of_lt_succ hid.2) hfew
  · exact htally.mem_givenOut.mpr (h.created id hid)
  · exact htally.mem_givenOut.mpr (h.snapshot_created p hp id hid)
  · exact h.isActive_iff (htally.mem_givenOut.mp hid)
  · simp [unsubscribe_of_mem hid, isActive]

/-- The first of three subscribers publishes while it takes a message, and then removes the second
while it takes the one that it has published.  Both publications have kept the second slot, which
is no longer in the list, and its flag says so. -/
theorem slots_of_nested_removal :
    let bus := (empty.run [.subscribe, .subscribe, .subscribe, .publish .unknown,
      .publish .unknown, .unsubscribe 2]).1
    (bus.running.map (fun p => p.current :: p.pending) = [[1, 2, 3], [1, 2, 3]] ∧
      bus.registered = [1, 3]) ∧
    ∀ id ∈ [1, 2, 3], bus.isActive id = true ↔ id ∈ [1, 3] := by
  intro bus
  obtain ⟨-, -, ⟨-, -, hactive⟩, -⟩ := slots_of_run [.subscribe, .subscribe, .subscribe,
    .publish .unknown, .publish .unknown, .unsubscribe 2]
  exact ⟨⟨rfl, rfl⟩, hactive⟩

end Bus

end ReportRelay
