/-
# The invariant of a hub

A hub hands messages to subscribers one delivery at a time: either a replay runs or one
publication, never both.  Whoever holds the handle of a registered subscription has not used
it, so the three ways to remove a subscription (by its number, through its handle, and by
discarding the handle) come to the same for the bus (`Sound.removed_step`).
-/
import ReportRelay.Hub
import ReportRelay.Proofs.Bus

namespace ReportRelay

/-- The subscription that a move is to remove. -/
def HubMove.removes? : HubMove → Option SubscriptionId
  | .detach id => some id
  | .release id => some id
  | .discard id => some id
  | _ => none

namespace Hub

/-- The invariant of a hub. -/
structure Sound (hub : Hub) : Prop where
  /-- Its bus is sound. -/
  bus : hub.bus.Sound
  /-- No publication runs during a replay. -/
  replay_alone : hub.replay.isSome → hub.bus.running = []
  /-- At most one publication runs. -/
  one_running : hub.bus.running.length ≤ 1
  /-- The handle of a registered subscription has not been used. -/
  handle_registered : ∀ id ∈ hub.bus.registered, hub.handle? id = some ⟨id, false⟩
  /-- There are handles only of subscriptions that were given out. -/
  handles_created : ∀ handle ∈ hub.handles, handle.id < hub.bus.nextId

/-- A hub without history and subscribers is sound. -/
theorem sound_ofConfig (config : HubConfig) : (ofConfig config).Sound where
  bus := Bus.sound_empty
  replay_alone := fun _ => rfl
  one_running := Nat.zero_le 1
  handle_registered := by simp [ofConfig, Bus.empty]
  handles_created := by simp [ofConfig]

/-- A hub that is not busy runs neither a replay nor a publication. -/
theorem not_isBusy_iff (hub : Hub) :
    hub.isBusy = false ↔ hub.replay = none ∧ hub.bus.running = [] := by
  simp [isBusy]

/-! ## Handles -/

/-- Marking a handle as used keeps the numbers of handles. -/
@[simp] theorem markReleased_id (id : SubscriptionId) (handle : Handle) :
    (markReleased id handle).id = handle.id := by
  unfold markReleased
  split <;> rfl

/-- Marking one handle as used keeps the handles of other subscriptions. -/
theorem find?_map_markReleased {handles : List Handle} {id other : SubscriptionId}
    {handle : Handle} (hne : other ≠ id)
    (h : handles.find? (fun handle => handle.id == other) = some handle) :
    (handles.map (markReleased id)).find? (fun handle => handle.id == other) = some handle := by
  have hid : handle.id = other := by simpa using List.find?_some h
  have hsame : markReleased id handle = handle := by
    rw [markReleased, if_neg (by rw [hid]; exact hne)]
  rw [List.find?_map]
  simp only [Function.comp_def, markReleased_id, h, Option.map_some, hsame]

/-- Discarding one handle keeps the handles of other subscriptions. -/
theorem find?_filter_discard {handles : List Handle} {id other : SubscriptionId}
    (hne : other ≠ id) :
    (handles.filter (fun handle => handle.id != id)).find? (fun handle => handle.id == other)
      = handles.find? (fun handle => handle.id == other) := by
  rw [List.find?_filter]
  congr 1
  funext handle
  by_cases h : handle.id = other
  · simp [h, hne]
  · simp [h]

/-! ## Removals -/

/-- A hub after a removal: its bus has lost the subscription, all but its handles is as
before, and nothing but the removal can be seen. -/
structure Removed (id : SubscriptionId) (hub : Hub) (moved : Hub × List HubEvent) : Prop where
  bus : moved.1.bus = (hub.bus.unsubscribe id).1
  config : moved.1.config = hub.config
  history : moved.1.history = hub.history
  replay : moved.1.replay = hub.replay
  events : ∀ event ∈ moved.2, ∃ removed, event = .detached id removed

/-- Removing a subscription by its number is a removal. -/
theorem removed_detach (hub : Hub) (id : SubscriptionId) : Removed id hub (hub.detach id) where
  bus := rfl
  config := rfl
  history := rfl
  replay := rfl
  events := by
    intro event hevent
    simp only [detach, moveBus, Bus.step, Bus.unsubscribe] at hevent
    split at hevent <;>
      exact ⟨_, by simpa only [List.map_cons, List.map_nil, List.mem_singleton,
        HubEvent.ofBus] using hevent⟩

/-- Using a handle that is spent, or not there, is a removal of a subscription that is not
registered. -/
theorem removed_of_notMem {hub : Hub} {id : SubscriptionId} (hid : id ∉ hub.bus.registered) :
    Removed id hub (hub, []) where
  bus := (Bus.unsubscribe_of_notMem hid).symm
  config := rfl
  history := rfl
  replay := rfl
  events := by simp

/-- Removing a subscription through its handle is a removal. -/
theorem Sound.removed_release {hub : Hub} (h : hub.Sound) (id : SubscriptionId) :
    Removed id hub (hub.release id) := by
  unfold release
  split
  · exact { removed_detach { hub with handles := _ } id with }
  · next hnone =>
      -- a spent handle, or none, is never that of a registered subscription
      refine removed_of_notMem fun hid => ?_
      exact hnone id (h.handle_registered id hid)

/-- Discarding the handle of a subscription is a removal. -/
theorem Sound.removed_discard {hub : Hub} (h : hub.Sound) (id : SubscriptionId) :
    Removed id hub (hub.discard id) :=
  { h.removed_release id with }

/-- The three ways to remove a subscription come to the same, up to its handle. -/
theorem Sound.removed_step {hub : Hub} (h : hub.Sound) {move : HubMove} {id : SubscriptionId}
    (hmove : move.removes? = some id) : Removed id hub (hub.step move) := by
  cases move with
  | detach other =>
      cases hmove
      exact removed_detach hub id
  | release other =>
      cases hmove
      exact h.removed_release id
  | discard other =>
      cases hmove
      exact h.removed_discard id
  | ingest report => cases hmove
  | attach => cases hmove
  | finish outcome => cases hmove

/-! ## Moves keep a hub sound -/

/-- A removal keeps a hub sound if it keeps the handles of the other subscriptions. -/
theorem Sound.of_removed {hub : Hub} (h : hub.Sound) {id : SubscriptionId}
    {moved : Hub × List HubEvent} (hr : Removed id hub moved)
    (hother : ∀ other handle, other ≠ id → hub.handle? other = some handle →
      moved.1.handle? other = some handle)
    (hhandles : ∀ handle ∈ moved.1.handles, handle.id < hub.bus.nextId) : moved.1.Sound where
  bus := by
    rw [hr.bus]
    exact h.bus.unsubscribe id
  replay_alone := by
    rw [hr.replay, hr.bus, Bus.unsubscribe_running]
    exact h.replay_alone
  one_running := by
    rw [hr.bus, Bus.unsubscribe_running]
    exact h.one_running
  handle_registered := by
    intro other hmem
    rw [hr.bus, h.bus.mem_unsubscribe] at hmem
    exact hother other _ hmem.1 (h.handle_registered other hmem.2)
  handles_created := by
    rw [hr.bus, Bus.unsubscribe_nextId]
    exact hhandles

/-- Removing a subscription by its number keeps a hub sound. -/
theorem Sound.detach {hub : Hub} (h : hub.Sound) (id : SubscriptionId) :
    (hub.detach id).1.Sound :=
  h.of_removed (removed_detach hub id) (fun _ _ _ hsome => hsome) h.handles_created

/-- The handles after one has been used. -/
theorem release_handles (hub : Hub) (id : SubscriptionId) :
    (hub.release id).1.handles = hub.handles ∨
      (hub.release id).1.handles = hub.handles.map (markReleased id) := by
  unfold release
  split
  · exact Or.inr rfl
  · exact Or.inl rfl

/-- Using a handle keeps those of other subscriptions. -/
theorem handle?_release {hub : Hub} {id other : SubscriptionId} {handle : Handle}
    (hne : other ≠ id) (h : hub.handle? other = some handle) :
    (hub.release id).1.handle? other = some handle := by
  unfold handle? at h ⊢
  rcases release_handles hub id with heq | heq
  · rw [heq]
    exact h
  · rw [heq]
    exact find?_map_markReleased hne h

/-- Using a handle gives out none. -/
theorem release_created {hub : Hub} (h : hub.Sound) (id : SubscriptionId) :
    ∀ handle ∈ (hub.release id).1.handles, handle.id < hub.bus.nextId := by
  intro handle hhandle
  rcases release_handles hub id with heq | heq
  · rw [heq] at hhandle
    exact h.handles_created handle hhandle
  · rw [heq] at hhandle
    obtain ⟨earlier, hearlier, rfl⟩ := List.mem_map.mp hhandle
    rw [markReleased_id]
    exact h.handles_created earlier hearlier

/-- Removing a subscription through its handle keeps a hub sound. -/
theorem Sound.release {hub : Hub} (h : hub.Sound) (id : SubscriptionId) :
    (hub.release id).1.Sound :=
  h.of_removed (h.removed_release id) (fun _ _ hne hsome => handle?_release hne hsome)
    (release_created h id)

/-- Discarding a handle keeps a hub sound. -/
theorem Sound.discard {hub : Hub} (h : hub.Sound) (id : SubscriptionId) :
    (hub.discard id).1.Sound := by
  refine h.of_removed (h.removed_discard id) ?_ ?_
  · intro other handle hne hsome
    have hrel := handle?_release hne hsome
    unfold handle? at hrel ⊢
    exact (find?_filter_discard hne).trans hrel
  · intro handle hhandle
    exact release_created h id handle (List.mem_filter.mp hhandle).1

/-- Publishing a report keeps an idle hub sound. -/
theorem Sound.ingest {hub : Hub} (h : hub.Sound) (hidle : hub.isBusy = false) (report : Json) :
    (hub.ingest report).1.Sound where
  bus := h.bus.step (.publish (.newReport report))
  replay_alone := by
    intro hreplay
    have hnone : (hub.ingest report).1.replay = none := (hub.not_isBusy_iff.mp hidle).1
    rw [hnone] at hreplay
    cases hreplay
  one_running := by
    have hrun := (hub.not_isBusy_iff.mp hidle).2
    rcases Bus.turn_cases hub.bus (.newReport report) 0 hub.bus.registered with
      ⟨-, heq⟩ | ⟨_, _, _, -, -, -, heq⟩
    · simp [Hub.ingest, moveBus, Bus.step, heq, hrun]
    · simp [Hub.ingest, moveBus, Bus.step, heq, hrun]
  handle_registered := by
    intro id hid
    simp only [Hub.ingest, moveBus, Bus.step, Bus.turn_registered] at hid
    exact h.handle_registered id hid
  handles_created := by
    simp only [Hub.ingest, moveBus, Bus.step, Bus.turn_nextId]
    exact h.handles_created

/-- Going on with a replay keeps a hub sound. -/
theorem Sound.replayOn {hub : Hub} (h : hub.Sound) (hrun : hub.bus.running = [])
    (accepted : Nat) (pending : List Message) : (hub.replayOn accepted pending).1.Sound := by
  cases pending with
  | cons message pending =>
      exact { h with
        bus := h.bus
        replay_alone := fun _ => hrun }
  | nil =>
      exact {
        bus := h.bus.subscribe
        replay_alone := fun _ => hrun
        one_running := h.one_running
        handle_registered := by
          intro id hid
          simp only [Hub.replayOn, handle?, List.find?_append]
          rcases List.mem_append.mp hid with hid | hid
          · have hsome := h.handle_registered id hid
            unfold handle? at hsome
            rw [hsome, Option.some_or]
          · rw [List.mem_singleton.mp hid]
            -- no earlier handle has the number that is given out now
            have hnone : hub.handles.find?
                (fun handle => handle.id == hub.bus.nextId) = none := by
              rw [List.find?_eq_none]
              intro handle hhandle
              simpa using Nat.ne_of_lt (h.handles_created handle hhandle)
            rw [hnone]
            simp
        handles_created := by
          intro handle hhandle
          rcases List.mem_append.mp hhandle with hhandle | hhandle
          · exact Nat.lt_succ_of_lt (h.handles_created handle hhandle)
          · rw [List.mem_singleton.mp hhandle]
            exact Nat.lt_succ_self _ }

/-- The end of a delivery keeps a hub sound. -/
theorem Sound.finish {hub : Hub} (h : hub.Sound) (outcome : Outcome) :
    (hub.finish outcome).1.Sound := by
  cases hreplay : hub.replay with
  | some replay =>
      simp only [Hub.finish, hreplay]
      exact h.replayOn (h.replay_alone (by rw [hreplay]; rfl)) _ _
  | none =>
      simp only [Hub.finish, hreplay, moveBus, Bus.step]
      exact {
        bus := h.bus.finish outcome
        replay_alone := fun hsome => by cases hsome
        one_running := by
          cases hrun : hub.bus.running with
          | nil => simp [Bus.finish, hrun]
          | cons publication outer =>
              -- the turn puts at most this publication back, and no other runs
              have houter : outer = [] := by simpa [hrun] using h.one_running
              simp only [Bus.finish, hrun, houter]
              rcases Bus.turn_cases { hub.bus with running := [] } publication.message
                  (publication.accepted + outcome.count) publication.pending with
                ⟨-, heq⟩ | ⟨_, _, _, -, -, -, heq⟩ <;> simp [heq]
        handle_registered := by
          rw [Bus.finish_registered]
          exact h.handle_registered
        handles_created := by
          rw [Bus.finish_nextId]
          exact h.handles_created }

/-- A move keeps a hub sound. -/
theorem Sound.step {hub : Hub} (h : hub.Sound) (move : HubMove) : (hub.step move).1.Sound := by
  cases move with
  | ingest report =>
      simp only [Hub.step]
      split
      · exact h
      · next hidle => exact h.ingest (by simpa using hidle) report
  | attach =>
      simp only [Hub.step]
      split
      · exact h
      · next hidle =>
          exact h.replayOn (hub.not_isBusy_iff.mp (by simpa using hidle)).2 0 _
  | detach id => exact h.detach id
  | release id => exact h.release id
  | discard id => exact h.discard id
  | finish outcome => exact h.finish outcome

end Hub

end ReportRelay
