/-
# What a move hands to a subscriber

The messages that events hand to a subscriber (`handed`), and those that the hub is still to
hand to it in the replay or publication that runs (`outstanding`).  A move changes the two
together in one of four ways: it promises a new report to the registered subscribers, or the
kept reports to a new one, it takes a promise back by removing a subscription before its turn,
or it hands over what was promised.
-/
import ReportRelay.Proofs.Hub.Sound

namespace ReportRelay

/-! ## Messages handed over -/

/-- The message that an event hands to a subscriber. -/
def HubEvent.handedTo? (id : SubscriptionId) : HubEvent → Option Message
  | .called other message => if other = id then some message else none
  | _ => none

/-- The messages that events hand to a subscriber, in their order. -/
def handed (id : SubscriptionId) (events : List HubEvent) : List Message :=
  events.filterMap (HubEvent.handedTo? id)

@[simp] theorem handed_nil (id : SubscriptionId) : handed id [] = [] := rfl

@[simp] theorem handed_append (id : SubscriptionId) (events later : List HubEvent) :
    handed id (events ++ later) = handed id events ++ handed id later :=
  List.filterMap_append

@[simp] theorem handed_called (id other : SubscriptionId) (message : Message)
    (events : List HubEvent) :
    handed id (.called other message :: events)
      = (if other = id then [message] else []) ++ handed id events := by
  by_cases h : other = id <;> simp [handed, HubEvent.handedTo?, h]

@[simp] theorem handed_finished (id other : SubscriptionId) (outcome : Outcome)
    (events : List HubEvent) :
    handed id (.finished other outcome :: events) = handed id events := rfl

@[simp] theorem handed_ingested (id : SubscriptionId) (message : Message) (accepted : Nat)
    (events : List HubEvent) :
    handed id (.ingested message accepted :: events) = handed id events := rfl

@[simp] theorem handed_attached (id other : SubscriptionId) (accepted : Nat)
    (events : List HubEvent) :
    handed id (.attached other accepted :: events) = handed id events := rfl

/-! ## Messages still to be handed over -/

/-- The message of the running publication, if it is still to be handed to a subscriber. -/
def Bus.outstanding (bus : Bus) (id : SubscriptionId) : List Message :=
  match bus.running with
  | [] => []
  | publication :: _ =>
    if id ∈ publication.pending ∧ id ∈ bus.registered then [publication.message] else []

/-- The messages that the hub is still to hand to a subscriber before it is idle. -/
def Hub.outstanding (hub : Hub) (id : SubscriptionId) : List Message :=
  match hub.replay with
  | some replay => if id = hub.bus.nextId then replay.pending else []
  | none => hub.bus.outstanding id

namespace Bus

/-- A bus on which no publication runs has nothing to hand over. -/
theorem outstanding_idle {bus : Bus} (hrun : bus.running = []) (id : SubscriptionId) :
    bus.outstanding id = [] := by
  rw [outstanding, hrun]

/-- A turn hands its message to the subscriptions that are given to it and registered. -/
theorem Sound.handed_turn {bus : Bus} (h : bus.Sound) (hrun : bus.running = [])
    (message : Message) (accepted : Nat) {pending : List SubscriptionId}
    (hasc : pending.Pairwise (· < ·)) (hcreated : ∀ id ∈ pending, bus.IsCreated id)
    (id : SubscriptionId) :
    handed id ((bus.turn message accepted pending).2.map HubEvent.ofBus)
        ++ (bus.turn message accepted pending).1.outstanding id
      = if id ∈ pending ∧ id ∈ bus.registered then [message] else [] := by
  have hactive : ∀ other ∈ pending, bus.isActive other = true ↔ other ∈ bus.registered :=
    fun other hother => h.isActive_iff (hcreated other hother)
  rcases turn_cases bus message accepted pending with
    ⟨hall, heq⟩ | ⟨skipped, called, rest, rfl, hskipped, hcalled, heq⟩
  · have hnot : ¬(id ∈ pending ∧ id ∈ bus.registered) := by
      rintro ⟨hmem, hreg⟩
      rw [← hactive id hmem, hall id hmem] at hreg
      cases hreg
    rw [heq, if_neg hnot, outstanding_idle hrun]
    simp [HubEvent.ofBus]
  · -- whoever is passed over is not registered, and whoever comes later is promised the message
    have hreg : called ∈ bus.registered := (hactive called (by simp)).mp hcalled
    have hrest : called ∉ rest :=
      List.nodup_cons.mp ((hasc.sublist (List.sublist_append_right _ _)).imp Nat.ne_of_lt) |>.1
    have hskip : id ∈ skipped → id ∉ bus.registered := by
      intro hmem hreg
      rw [← hactive id (by simp [hmem]), hskipped id hmem] at hreg
      cases hreg
    rw [heq]
    simp only [List.map_cons, List.map_nil, HubEvent.ofBus, handed_called, handed_nil,
      List.append_nil, outstanding]
    by_cases hid : called = id
    · subst hid
      simp [hreg, hrest]
    · by_cases hmem : id ∈ skipped
      · simp [hid, hskip hmem]
      · simp [hid, hmem, Ne.symm hid]

end Bus

namespace Hub

/-- An idle hub has nothing to hand over. -/
theorem outstanding_idle {hub : Hub} (hidle : hub.isBusy = false) (id : SubscriptionId) :
    hub.outstanding id = [] := by
  obtain ⟨hreplay, hrun⟩ := hub.not_isBusy_iff.mp hidle
  rw [outstanding, hreplay]
  exact Bus.outstanding_idle hrun id

/-! ## The four kinds of moves -/

/-- A publication promises its report to the registered subscribers. -/
theorem Sound.handed_ingest {hub : Hub} (h : hub.Sound) (hidle : hub.isBusy = false)
    (report : Json) (id : SubscriptionId) :
    handed id (hub.ingest report).2 ++ (hub.ingest report).1.outstanding id
      = if id ∈ hub.bus.registered then [.newReport report] else [] := by
  obtain ⟨hreplay, hrun⟩ := hub.not_isBusy_iff.mp hidle
  have hturn := h.bus.handed_turn hrun (.newReport report) 0 h.bus.ascending h.bus.created id
  simp only [and_self] at hturn
  simpa only [Hub.ingest, moveBus, Bus.step, outstanding, hreplay] using hturn

/-- A replay hands its messages to the subscriber that is being attached. -/
theorem handed_replayOn {hub : Hub} (hrun : hub.bus.running = []) (accepted : Nat)
    (pending : List Message) (id : SubscriptionId) :
    handed id (hub.replayOn accepted pending).2
        ++ (hub.replayOn accepted pending).1.outstanding id
      = if id = hub.bus.nextId then pending else [] := by
  cases pending with
  | nil =>
      have hidle : Bus.outstanding hub.bus.subscribe.1 id = [] :=
        Bus.outstanding_idle (show hub.bus.subscribe.1.running = [] from hrun) id
      simp [replayOn, outstanding, hidle]
  | cons message pending =>
      by_cases hid : id = hub.bus.nextId
      · simp [replayOn, outstanding, hid]
      · simp [replayOn, outstanding, hid, Ne.symm hid]

/-- The end of a delivery hands over what was promised. -/
theorem Sound.handed_finish {hub : Hub} (h : hub.Sound) (outcome : Outcome)
    (id : SubscriptionId) :
    handed id (hub.finish outcome).2 ++ (hub.finish outcome).1.outstanding id
      = hub.outstanding id := by
  cases hreplay : hub.replay with
  | some replay =>
      have hrun := h.replay_alone (by rw [hreplay]; rfl)
      simp only [Hub.finish, hreplay, handed_finished, outstanding]
      exact handed_replayOn hrun _ _ id
  | none =>
      simp only [Hub.finish, hreplay, moveBus, Bus.step, outstanding]
      cases hrun : hub.bus.running with
      | nil => simp [Bus.finish, hrun, Bus.outstanding]
      | cons publication outer =>
          -- the publication is taken off the stack for the turn, which leaves no other one
          have houter : outer = [] := by simpa [hrun] using h.one_running
          have hmem : publication ∈ hub.bus.running := by simp [hrun]
          have hasc := (List.pairwise_cons.mp (h.bus.snapshot_ascending publication hmem)).2
          have hcreated := h.bus.snapshot_created publication hmem
          have hsound : Bus.Sound { hub.bus with running := outer } := h.bus.outer hrun
          have hturn := hsound.handed_turn houter publication.message
            (publication.accepted + outcome.count) hasc
            (fun other hother => hcreated other (List.mem_cons_of_mem _ hother)) id
          simp only [Bus.finish, hrun, List.map_cons, HubEvent.ofBus, handed_finished]
          rw [hturn, Bus.outstanding, hrun]

/-- A removal hands over nothing. -/
theorem Removed.handed {hub : Hub} {moved : Hub × List HubEvent} {removed : SubscriptionId}
    (hr : Removed removed hub moved) (id : SubscriptionId) : handed id moved.2 = [] := by
  refine List.filterMap_eq_nil_iff.mpr fun event hevent => ?_
  obtain ⟨was, rfl⟩ := hr.events event hevent
  rfl

/-- A removal takes back what was promised to a registered subscription, and nothing of what
was promised to others. -/
theorem Sound.outstanding_removed {hub : Hub} (h : hub.Sound) {moved : Hub × List HubEvent}
    {removed : SubscriptionId} (hr : Removed removed hub moved) (id : SubscriptionId) :
    moved.1.outstanding id
      = if id = removed ∧ removed ∈ hub.bus.registered then [] else hub.outstanding id := by
  rw [outstanding, outstanding, hr.replay, hr.bus, Bus.unsubscribe_nextId]
  cases hreplay : hub.replay with
  | some replay =>
      have hnext := h.bus.nextId_notMem
      by_cases hid : id = removed ∧ removed ∈ hub.bus.registered
      · have hne : id ≠ hub.bus.nextId := fun heq => hnext (heq ▸ hid.1 ▸ hid.2)
        simp only [if_neg hne, if_pos hid]
      · simp only [if_neg hid]
  | none =>
      simp only [Bus.outstanding, Bus.unsubscribe_running, h.bus.mem_unsubscribe]
      cases hub.bus.running with
      | nil => simp
      | cons publication outer =>
          by_cases hid : id = removed
          · by_cases hreg : removed ∈ hub.bus.registered <;> simp [hid, hreg]
          · simp [hid]

end Hub

end ReportRelay
