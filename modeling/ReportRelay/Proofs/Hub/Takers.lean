/-
# Who has accepted a report

The result of publishing a report is the number of deliveries of it that were accepted.  The
events of a run tell whose deliveries they were (`ingestions`).  A publication goes through its
subscribers in the order of their numbers and so comes to none of them twice: the result is the
number of the subscribers that have accepted the report (`Hub.exact_of_acts`).  A publication that
is given up has no result, and who has accepted its report does not count for the next one.
-/
import ReportRelay.Proofs.Hub.Escape

namespace ReportRelay

/-! ## Published reports in events -/

/-- A report whose publication has ended. -/
structure Ingestion where
  /-- The message. -/
  message : Message
  /-- The result of publishing it. -/
  accepted : Nat
  /-- The subscribers that have accepted it, the last one first. -/
  takers : List SubscriptionId

/-- The result is the number of subscribers that have accepted the report. -/
def Ingestion.Exact (ingestion : Ingestion) : Prop :=
  ingestion.accepted = ingestion.takers.length ∧ ingestion.takers.Nodup

/-- The subscribers that have accepted a message since the hub began to hand out messages, after
an event. -/
def HubEvent.takers (takers : List SubscriptionId) : HubEvent → List SubscriptionId
  | .finished id outcome => if outcome.isAccepted then id :: takers else takers
  | .ingested _ _ => []
  | .attached _ _ => []
  | .abandoned => []
  | _ => takers

/-- The report whose publication ends with an event, given those who have accepted it. -/
def HubEvent.ingestion? (takers : List SubscriptionId) : HubEvent → Option Ingestion
  | .ingested message accepted => some ⟨message, accepted, takers⟩
  | _ => none

/-- The subscribers that have accepted a message after events. -/
def takersAfter (takers : List SubscriptionId) (events : List HubEvent) : List SubscriptionId :=
  events.foldl HubEvent.takers takers

/-- The reports whose publications end in events, given those who have accepted the first one
before. -/
def ingestionsFrom (takers : List SubscriptionId) : List HubEvent → List Ingestion
  | [] => []
  | event :: events =>
    (event.ingestion? takers).toList ++ ingestionsFrom (event.takers takers) events

/-- The reports whose publications end in events of a hub that was idle before. -/
def ingestions (events : List HubEvent) : List Ingestion := ingestionsFrom [] events

theorem takersAfter_append (takers : List SubscriptionId) (events later : List HubEvent) :
    takersAfter takers (events ++ later) = takersAfter (takersAfter takers events) later :=
  List.foldl_append

/-- The reports of later events are those after the takers of the earlier events. -/
theorem ingestionsFrom_append (takers : List SubscriptionId) (events later : List HubEvent) :
    ingestionsFrom takers (events ++ later)
      = ingestionsFrom takers events ++ ingestionsFrom (takersAfter takers events) later := by
  induction events generalizing takers with
  | nil => rfl
  | cons event events ih =>
      rw [List.cons_append, ingestionsFrom, ih, ingestionsFrom, List.append_assoc]
      rfl

namespace Hub

/-! ## The count of a publication -/

/-- A count of accepted deliveries is that of the subscribers who have accepted, and all of them
come before those that are still to be called. -/
structure Counted (takers : List SubscriptionId) (accepted : Nat)
    (pending : List SubscriptionId) : Prop where
  accepted_eq : accepted = takers.length
  nodup : takers.Nodup
  before : ∀ taker ∈ takers, ∀ id ∈ pending, taker < id

/-- Nobody has accepted anything before the first delivery. -/
theorem counted_nil (pending : List SubscriptionId) : Counted [] 0 pending :=
  ⟨rfl, .nil, by simp⟩

/-- A count goes for the last of the subscribers that are still to be called. -/
theorem Counted.of_append {takers skipped pending : List SubscriptionId} {accepted : Nat}
    (h : Counted takers accepted (skipped ++ pending)) : Counted takers accepted pending :=
  ⟨h.accepted_eq, h.nodup, fun taker htaker id hid =>
    h.before taker htaker id (List.mem_append_right _ hid)⟩

/-- The end of a delivery is counted for its subscriber. -/
theorem Counted.finished {takers pending : List SubscriptionId} {accepted : Nat}
    {current : SubscriptionId} (h : Counted takers accepted (current :: pending))
    (hcurrent : ∀ id ∈ pending, current < id) (outcome : Outcome) :
    Counted ((HubEvent.finished current outcome).takers takers) (accepted + outcome.count)
      pending := by
  have hsplit : Counted takers accepted ([current] ++ pending) := h
  have hrest := hsplit.of_append
  cases haccepted : outcome.isAccepted with
  | false => simpa [HubEvent.takers, Outcome.count, haccepted] using hrest
  | true =>
      have hfresh : current ∉ takers := fun hmem =>
        Nat.lt_irrefl current (h.before current hmem current List.mem_cons_self)
      simp only [HubEvent.takers, Outcome.count, haccepted, if_true]
      refine ⟨?_, List.nodup_cons.mpr ⟨hfresh, h.nodup⟩, ?_⟩
      · rw [hrest.accepted_eq, List.length_cons]
      · intro taker htaker id hid
        rcases List.mem_cons.mp htaker with rfl | htaker
        · exact hcurrent id hid
        · exact hrest.before taker htaker id hid

/-! ## Moves -/

/-- A hub knows how many have accepted what it hands out: nobody while it is idle, and those whom
it has counted while a publication runs. -/
structure Tallies (takers : List SubscriptionId) (hub : Hub) : Prop where
  idle : hub.isBusy = false → takers = []
  running : ∀ publication ∈ hub.bus.running,
    Counted takers publication.accepted (publication.current :: publication.pending)

/-- What comes of a move: the publications that it ends have exact results, and the hub knows how
many have accepted what it hands out. -/
structure Settles (takers : List SubscriptionId) (moved : Hub × List HubEvent) : Prop where
  exact : ∀ ingestion ∈ ingestionsFrom takers moved.2, ingestion.Exact
  tallies : Tallies (takersAfter takers moved.2) moved.1

/-- Nothing is settled by a move that changes nothing. -/
theorem settles_stay {hub : Hub} {takers : List SubscriptionId} (h : Tallies takers hub) :
    Settles takers (hub, []) :=
  ⟨by simp [ingestionsFrom], h⟩

/-- An event that ends no publication may come first. -/
theorem Settles.cons {takers : List SubscriptionId} {event : HubEvent} {hub : Hub}
    {events : List HubEvent} (h : Settles (event.takers takers) (hub, events))
    (hevent : event.ingestion? takers = none) : Settles takers (hub, event :: events) where
  exact := by
    rw [ingestionsFrom, hevent]
    exact h.exact
  tallies := h.tallies

/-- Moves may follow. -/
theorem Settles.append {takers : List SubscriptionId} {hub after : Hub}
    {events later : List HubEvent} (h : Settles takers (hub, events))
    (hlater : Settles (takersAfter takers events) (after, later)) :
    Settles takers (after, events ++ later) where
  exact := by
    intro ingestion hmem
    rw [ingestionsFrom_append] at hmem
    rcases List.mem_append.mp hmem with hmem | hmem
    · exact h.exact ingestion hmem
    · exact hlater.exact ingestion hmem
  tallies := by
    rw [takersAfter_append]
    exact hlater.tallies

/-- A turn ends the publication with its count, or goes on with it. -/
theorem settles_turn (hub : Hub) {bus : Bus} (hrun : bus.running = []) (message : Message)
    {takers pending : List SubscriptionId} {accepted : Nat}
    (h : Counted takers accepted pending) :
    Settles takers ({ hub with bus := (bus.turn message accepted pending).1 },
      (bus.turn message accepted pending).2.map HubEvent.ofBus) := by
  rcases Bus.turn_cases bus message accepted pending with
    ⟨-, heq⟩ | ⟨skipped, called, rest, rfl, -, -, heq⟩
  · rw [heq]
    refine ⟨?_, fun _ => rfl, by simp [hrun]⟩
    intro ingestion hmem
    obtain rfl : ingestion = ⟨message, accepted, takers⟩ := by
      simpa [HubEvent.ofBus, ingestionsFrom, HubEvent.ingestion?] using hmem
    exact ⟨h.accepted_eq, h.nodup⟩
  · rw [heq]
    refine ⟨by simp [HubEvent.ofBus, ingestionsFrom, HubEvent.ingestion?], ?_, ?_⟩
    · intro hidle
      simp [isBusy] at hidle
    · intro publication hmem
      obtain rfl : publication = ⟨message, called, rest, accepted⟩ := by simpa [hrun] using hmem
      exact h.of_append

/-- A replay counts for no publication. -/
theorem settles_replayOn {hub : Hub} (hrun : hub.bus.running = []) (accepted : Nat)
    (pending : List Message) (takers : List SubscriptionId) :
    Settles takers (hub.replayOn accepted pending) := by
  cases pending with
  | nil =>
      have hidle : hub.bus.subscribe.1.running = [] := hrun
      exact ⟨by simp [replayOn, ingestionsFrom, HubEvent.ingestion?], fun _ => rfl,
        by simp [replayOn, hidle]⟩
  | cons message pending =>
      refine ⟨by simp [replayOn, ingestionsFrom, HubEvent.ingestion?], ?_, by simp [replayOn, hrun]⟩
      intro hidle
      simp [replayOn, isBusy] at hidle

/-- A removal leaves all counts as they are. -/
theorem Removed.settles {hub : Hub} {moved : Hub × List HubEvent} {removed : SubscriptionId}
    (hr : Removed removed hub moved) {takers : List SubscriptionId} (h : Tallies takers hub) :
    Settles takers moved := by
  have hevents : ingestionsFrom takers moved.2 = [] ∧ takersAfter takers moved.2 = takers := by
    have hall := hr.events
    generalize moved.2 = events at hall
    induction events with
    | nil => exact ⟨rfl, rfl⟩
    | cons event events ih =>
        obtain ⟨was, rfl⟩ := hall event List.mem_cons_self
        exact ih fun other hother => hall other (List.mem_cons_of_mem _ hother)
  have hbusy : moved.1.isBusy = hub.isBusy := by
    rw [isBusy, isBusy, hr.replay, hr.bus, Bus.unsubscribe_running]
  refine ⟨by simp [hevents.1], ?_, ?_⟩
  · rw [hbusy, hevents.2]
    exact h.idle
  · rw [hr.bus, Bus.unsubscribe_running, hevents.2]
    exact h.running

/-- The end of a delivery is counted for its subscriber. -/
theorem Sound.settles_finish {hub : Hub} (h : hub.Sound) {takers : List SubscriptionId}
    (ht : Tallies takers hub) (outcome : Outcome) : Settles takers (hub.finish outcome) := by
  cases hreplay : hub.replay with
  | some replay =>
      have hrun := h.replay_alone (by rw [hreplay]; rfl)
      simp only [Hub.finish, hreplay]
      exact (settles_replayOn hrun _ _ _).cons rfl
  | none =>
      have hmove : hub.finish outcome = hub.moveBus (.finish outcome) := by
        simp only [Hub.finish, hreplay]
      rw [hmove]
      cases hrun : hub.bus.running with
      | nil =>
          have hstay : hub.moveBus (.finish outcome) = (hub, []) := by
            simp [moveBus, Bus.step, Bus.finish, hrun]
          rw [hstay]
          exact settles_stay ht
      | cons publication outer =>
          have houter : outer = [] := by simpa [hrun] using h.one_running
          have hmem : publication ∈ hub.bus.running := by simp [hrun]
          have hasc := (List.pairwise_cons.mp (h.bus.snapshot_ascending publication hmem)).1
          have hcounted := (ht.running publication hmem).finished hasc outcome
          -- the publication is taken off the stack for the turn, which leaves no other one
          have hturn := @settles_turn hub { hub.bus with running := outer } houter
            publication.message _ _ _ hcounted
          simp only [moveBus, Bus.step, Bus.finish, hrun]
          exact hturn.cons rfl

/-- **A move settles the publications that it ends.** -/
theorem Sound.settles_step {hub : Hub} (h : hub.Sound) {takers : List SubscriptionId}
    (ht : Tallies takers hub) (move : HubMove) : Settles takers (hub.step move) := by
  cases move with
  | ingest report =>
      rw [Hub.step]
      split
      · exact settles_stay ht
      · next hidle =>
          have hidle : hub.isBusy = false := by simpa using hidle
          have hrun := (hub.not_isBusy_iff.mp hidle).2
          rw [ht.idle hidle]
          exact settles_turn _ hrun _ (counted_nil _)
  | attach =>
      rw [Hub.step]
      split
      · exact settles_stay ht
      · next hidle =>
          exact settles_replayOn (hub.not_isBusy_iff.mp (by simpa using hidle)).2 _ _ _
  | detach id => exact (removed_detach hub id).settles ht
  | release id => exact (h.removed_release id).settles ht
  | discard id => exact (h.removed_discard id).settles ht
  | finish outcome => exact h.settles_finish ht outcome

/-- A publication that is given up has no result, and is settled with that. -/
theorem Sound.settles_escape {hub : Hub} (h : hub.Sound) {takers : List SubscriptionId}
    (ht : Tallies takers hub) (info : Option String) : Settles takers (hub.escape info) := by
  cases hcalling : hub.calling? with
  | none =>
      rw [escape_of_none hcalling]
      exact settles_stay ht
  | some call =>
      rw [escape_eq hcalling]
      exact ⟨by simp [ingestionsFrom, HubEvent.ingestion?], fun _ => rfl,
        by simp [h.running_giveUp]⟩

/-- Whatever happens settles the publications that it ends. -/
theorem Sound.settles_acts {hub : Hub} (h : hub.Sound) {takers : List SubscriptionId}
    (ht : Tallies takers hub) (acts : List HubAct) : Settles takers (hub.actAll acts) := by
  induction acts generalizing hub takers with
  | nil => exact settles_stay ht
  | cons act acts ih =>
      have hact : Settles takers (hub.act act) := by
        cases act with
        | move move => exact h.settles_step ht move
        | escape info => exact h.settles_escape ht info
      exact hact.append (ih (h.act act) hact.tallies)

/-- **The result of publishing a report is the number of subscribers that have accepted it.** -/
theorem exact_of_acts (config : HubConfig) (acts : List HubAct) :
    ∀ ingestion ∈ ingestions ((ofConfig config).actAll acts).2, ingestion.Exact :=
  ((sound_ofConfig config).settles_acts ⟨fun _ => rfl, by simp [ofConfig, Bus.empty]⟩ acts).exact

end Hub

end ReportRelay
