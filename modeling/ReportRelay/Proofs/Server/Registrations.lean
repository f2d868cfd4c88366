/-
# The registrations of streams

The registered subscriptions of a server are those of its running streams, but for those that
others have removed (`Roll`).  A stream is registered when the replay to it has ended, which is
when it begins to run; and whatever ends it, its registration is removed in the same step.
-/
import Mathlib.Data.List.Nodup
import ReportRelay.Proofs.Server.Steps

namespace ReportRelay

namespace Server

variable {server : Server} {id : SubscriptionId}

/-! ## Running streams -/

/-- Among streams of different subscriptions, each is alone in what is noted of it. -/
theorem eq_of_phase? (hnodup : (server.streams.map Stream.id).Nodup) {phase : StreamPhase}
    (h : server.phase? id = some phase) :
    ∀ stream ∈ server.streams, stream.id = id → stream.phase = phase := by
  intro stream hstream hid
  obtain ⟨other, hother, hotherId, rfl⟩ := exists_of_phase? h
  rw [List.inj_on_of_nodup_map hnodup hstream hother (hid.trans hotherId.symm)]

/-- Changing what a stream does leaves the streams those of the same subscriptions. -/
theorem map_id_setPhase (server : Server) (id : SubscriptionId) (phase : StreamPhase) :
    (server.setPhase id phase).streams.map Stream.id = server.streams.map Stream.id := by
  unfold setPhase
  rw [List.map_map]
  apply List.map_congr_left
  intro stream _
  show (if stream.id = id then { stream with phase := phase } else stream).id = stream.id
  split <;> rfl

/-- Those who run once a stream does something else. -/
theorem running_setPhase (server : Server) (id : SubscriptionId) (phase : StreamPhase) :
    (server.setPhase id phase).running = (server.streams.filter fun stream =>
      (if stream.id = id then phase else stream.phase).isRunning).map Stream.id := by
  unfold running setPhase
  rw [List.filter_map, List.map_map]
  congr 1
  · funext stream
    show (if stream.id = id then { stream with phase := phase } else stream).id = stream.id
    split <;> rfl
  · apply List.filter_congr
    intro stream _
    show (if stream.id = id then { stream with phase := phase } else stream).phase.isRunning = _
    split <;> rfl

/-- A stream that ends does not run any more; the others do. -/
theorem running_setPhase_leaving (server : Server) (id : SubscriptionId) :
    (server.setPhase id .leaving).running = server.running.filter (· ≠ id) := by
  rw [running_setPhase, running, List.filter_map, List.filter_filter]
  congr 1
  apply List.filter_congr
  intro stream _
  show _ = (decide (stream.id ≠ id) && stream.phase.isRunning)
  by_cases hid : stream.id = id
  · rw [if_pos hid, decide_eq_false (not_not.mpr hid)]
    rfl
  · rw [if_neg hid, decide_eq_true hid, Bool.true_and]

/-- A running stream that does something else runs on. -/
theorem running_setPhase_of_running (hnodup : (server.streams.map Stream.id).Nodup)
    {phase other : StreamPhase} (hphase : server.phase? id = some phase)
    (hbefore : phase.isRunning = true) (hafter : other.isRunning = true) :
    (server.setPhase id other).running = server.running := by
  rw [running_setPhase, running]
  congr 1
  apply List.filter_congr
  intro stream hstream
  by_cases hid : stream.id = id
  · rw [if_pos hid, eq_of_phase? hnodup hphase stream hstream hid, hafter, hbefore]
  · rw [if_neg hid]

/-- A stream that has ended leaves, and the others run on. -/
theorem running_filter {after : Server}
    (hstreams : after.streams = server.streams.filter fun stream => stream.id != id)
    (hnodup : (server.streams.map Stream.id).Nodup)
    (hphase : server.phase? id = some .leaving) : after.running = server.running := by
  rw [running, running, hstreams, List.filter_filter]
  apply congrArg
  apply List.filter_congr
  intro stream hstream
  by_cases hid : stream.id = id
  · have hleaving := eq_of_phase? hnodup hphase stream hstream hid
    rw [hleaving]
    rfl
  · simp [hid]

/-- A stream that is opened runs after the others. -/
theorem running_append {after : Server}
    (hstreams : after.streams = server.streams ++ [⟨id, .waiting⟩]) :
    after.running = server.running ++ [id] := by
  rw [running, hstreams, List.filter_append, List.map_append]
  rfl

/-- A move of the relay keeps its hub sound. -/
theorem sound_relay {relay : Relay} (h : relay.hub.Sound) (move : RelayMove) :
    (relay.step move).1.hub.Sound := by
  rcases Relay.step_hub_cases relay move with ⟨-, hhub, -⟩ | ⟨moved, -, hhub, -⟩
  · rw [hhub]
    exact h
  · rw [hhub]
    exact h.step moved

/-! ## What was to come -/

/-- While the hub is busy, what was to come is still to come. -/
theorem conclude_of_busy (hbusy : server.relay.hub.isBusy = true) :
    server.conclude = (server, []) := by
  rw [conclude, if_pos hbusy]

/-- If no stream was to come, none does. -/
theorem conclude_of_no_stream (h : ∀ id, server.upcoming ≠ some (.stream id)) :
    server.conclude.1.streams = server.streams ∧
      ∀ id, server.conclude.1.upcoming ≠ some (.stream id) := by
  unfold conclude
  split
  · exact ⟨rfl, h⟩
  · split
    · exact ⟨rfl, h⟩
    · exact ⟨rfl, fun id heq => by cases heq⟩
    · next id hstream => exact absurd hstream (h id)

/-- If a stream was to come, it runs once the hub is idle. -/
theorem conclude_of_stream (hidle : server.relay.hub.isBusy = false)
    (h : server.upcoming = some (.stream id)) :
    server.conclude = ({ server with
      upcoming := none, streams := server.streams ++ [⟨id, .waiting⟩] }, [.opened id]) := by
  rw [conclude, hidle, h]
  rfl

/-! ## The roll of streams -/

/-- The registered subscriptions are those of the running streams but for those that others have
cut off; a subscriber that is being attached is that of the stream to come. -/
structure Roll (cut : List SubscriptionId) (server : Server) : Prop where
  sound : server.relay.hub.Sound
  ascending : (server.streams.map Stream.id).Pairwise (· < ·)
  created : ∀ stream ∈ server.streams, server.relay.hub.bus.IsCreated stream.id
  cut_created : ∀ id ∈ cut, server.relay.hub.bus.IsCreated id
  registered : server.relay.hub.bus.registered = server.running.filter (· ∉ cut)
  upcoming : server.Expects

variable {cut : List SubscriptionId}

/-- A server without streams has nobody registered. -/
theorem roll_ofConfig (config : HubConfig) : Roll [] (ofConfig config) where
  sound := Hub.sound_ofConfig config
  ascending := List.Pairwise.nil
  created := fun stream hstream => by cases hstream
  cut_created := fun id hid => by cases hid
  registered := rfl
  upcoming := by
    intro id
    constructor
    · intro hstream
      cases hstream
    · intro hjoining
      cases hjoining.1

/-- Streams are of different subscriptions. -/
theorem Roll.nodup (h : Roll cut server) : (server.streams.map Stream.id).Nodup :=
  h.ascending.imp Nat.ne_of_lt

/-- No subscription runs twice. -/
theorem Roll.nodup_running (h : Roll cut server) : server.running.Nodup :=
  h.nodup.sublist (List.filter_sublist.map Stream.id)

/-- Who runs has been attached. -/
theorem Roll.running_created (h : Roll cut server) :
    ∀ id ∈ server.running, server.relay.hub.bus.IsCreated id := by
  intro id hid
  obtain ⟨stream, hstream, rfl⟩ := List.mem_map.mp hid
  exact h.created stream (List.mem_filter.mp hstream).1

/-- A move that gives out no number keeps the roll if it keeps the registrations of those who run
then. -/
theorem Roll.of_frame (h : Roll cut server) {after : Server} {others : List SubscriptionId}
    (hsound : after.relay.hub.Sound)
    (hnext : after.relay.hub.bus.nextId = server.relay.hub.bus.nextId)
    (hupcoming : after.Expects)
    (hstreams : (after.streams.map Stream.id).Sublist (server.streams.map Stream.id))
    (hothers : ∀ id ∈ others, server.relay.hub.bus.IsCreated id)
    (hregistered : after.relay.hub.bus.registered = after.running.filter (· ∉ others)) :
    Roll others after where
  sound := hsound
  ascending := h.ascending.sublist hstreams
  created := by
    intro stream hstream
    obtain ⟨other, hother, hid⟩ :=
      List.mem_map.mp (hstreams.subset (List.mem_map_of_mem hstream))
    rw [← hid, Bus.IsCreated, hnext]
    exact h.created other hother
  cut_created := by
    intro id hid
    rw [Bus.IsCreated, hnext]
    exact hothers id hid
  registered := hregistered
  upcoming := hupcoming

/-- What a removal that is made through the relay does to its hub. -/
theorem Roll.removed (h : Roll cut server) {move : HubMove} (hmove : move.removes? = some id) :
    let after := (server.relay.hub.step move).1
    after.Sound ∧ after.bus.nextId = server.relay.hub.bus.nextId ∧
      (∀ other, server.upcoming = some (.stream other) ↔ after.IsJoining other) ∧
      after.bus.registered = server.running.filter (fun other => other ≠ id ∧ other ∉ cut) := by
  intro after
  have hremoved := h.sound.removed_step hmove
  have hnodup : (server.running.filter (· ∉ cut)).Nodup := h.nodup_running.filter _
  have hnext : after.bus.nextId = server.relay.hub.bus.nextId := by
    rw [hremoved.bus, Bus.unsubscribe_nextId]
  refine ⟨h.sound.step move, hnext, fun other => ?_, ?_⟩
  · rw [h.upcoming, Hub.IsJoining, Hub.IsJoining, hremoved.replay, hnext]
  · rw [h.sound.registered_removes hmove, h.registered, hnodup.erase_eq_filter,
      List.filter_filter]
    apply List.filter_congr
    intro other _
    by_cases hid : other = id <;> simp [hid]

/-- The end of a stream removes its registration. -/
theorem Roll.finish (h : Roll cut server) (id : SubscriptionId) (reason : StreamReason) :
    Roll cut (server.finish id reason).1 := by
  obtain ⟨hsound, hnext, hupcoming, hregistered⟩ :=
    h.removed (show HubMove.removes? (.release id) = some id from rfl)
  have hrunning : (server.finish id reason).1.running = server.running.filter (· ≠ id) :=
    running_setPhase_leaving (server.moveRelay (.hub (.release id))).1 id
  refine h.of_frame hsound hnext hupcoming ?_ h.cut_created ?_
  · have hids := map_id_setPhase (server.moveRelay (.hub (.release id))).1 id .leaving
    show List.Sublist (((server.moveRelay (.hub (.release id))).1.setPhase id
      .leaving).streams.map Stream.id) _
    rw [hids]
    exact List.Sublist.refl _
  · rw [hrunning, List.filter_filter]
    refine hregistered.trans (List.filter_congr fun other _ => ?_)
    by_cases hid : other = id <;> simp [hid]

/-- Those run who are noted as doing anything but leave. -/
theorem Roll.mem_running_iff (h : Roll cut server) :
    id ∈ server.running ↔ ∃ phase, server.phase? id = some phase ∧ phase.isRunning = true := by
  constructor
  · intro hid
    obtain ⟨stream, hstream, rfl⟩ := List.mem_map.mp hid
    obtain ⟨hmem, hrunning⟩ := List.mem_filter.mp hstream
    cases hphase : server.phase? stream.id with
    | none =>
        rw [phase?, Option.map_eq_none_iff, List.find?_eq_none] at hphase
        exact absurd (beq_self_eq_true _) (hphase stream hmem)
    | some phase =>
        rw [eq_of_phase? h.nodup hphase stream hmem rfl] at hrunning
        exact ⟨phase, rfl, hrunning⟩
  · rintro ⟨phase, hphase, hrunning⟩
    obtain ⟨stream, hstream, rfl, rfl⟩ := exists_of_phase? hphase
    exact List.mem_map_of_mem (List.mem_filter.mpr ⟨hstream, hrunning⟩)

/-- Who has ended does not run. -/
theorem Roll.notMem_running (h : Roll cut server) (hphase : server.phase? id = some .leaving) :
    id ∉ server.running := by
  rw [h.mem_running_iff, hphase]
  rintro ⟨phase, heq, hrunning⟩
  cases heq
  cases hrunning

/-- A stream that leaves was not registered any more. -/
theorem Roll.leave (h : Roll cut server) (hphase : server.phase? id = some .leaving) :
    Roll cut (server.leave id).1 := by
  obtain ⟨hsound, hnext, hupcoming, hregistered⟩ :=
    h.removed (show HubMove.removes? (.discard id) = some id from rfl)
  have hleave : (server.leave id).1.streams
      = server.streams.filter fun stream => stream.id != id := by
    rw [Server.leave, hphase]
    rfl
  have hrunning := running_filter hleave h.nodup hphase
  rw [Server.leave, hphase] at hrunning ⊢
  refine h.of_frame hsound hnext hupcoming ?_ h.cut_created ?_
  · exact List.filter_sublist.map Stream.id
  · rw [hrunning]
    refine hregistered.trans ?_
    apply List.filter_congr
    intro other hother
    have hne : other ≠ id := fun heq => h.notMem_running hphase (heq ▸ hother)
    simp [hne]

/-- The subscriptions of running streams that others remove in the course of moves. -/
def cutOff (server : Server) : List ServerMove → List SubscriptionId
  | [] => []
  | move :: moves => (server.cutBy? move).toList ++ cutOff (server.step move).1 moves

/-- Who is removed by others is cut off, if it runs. -/
theorem Roll.detach (h : Roll cut server) (id : SubscriptionId) :
    Roll (cut ++ (server.cutBy? (.detach id)).toList)
      (server.moveRelay (.hub (.detach id))).1 := by
  obtain ⟨hsound, hnext, hupcoming, hregistered⟩ :=
    h.removed (show HubMove.removes? (.detach id) = some id from rfl)
  by_cases hid : id ∈ server.running
  · rw [cutBy?, if_pos hid, Option.toList_some]
    refine h.of_frame hsound hnext hupcoming (List.Sublist.refl _) ?_ ?_
    · intro other hother
      rcases List.mem_append.mp hother with hcut | hother
      · exact h.cut_created other hcut
      · rw [List.mem_singleton.mp hother]
        exact h.running_created id hid
    · refine hregistered.trans (List.filter_congr fun other _ => ?_)
      by_cases heq : other = id <;> simp [heq]
  · rw [cutBy?, if_neg hid, Option.toList_none, List.append_nil]
    refine h.of_frame hsound hnext hupcoming (List.Sublist.refl _) h.cut_created ?_
    refine hregistered.trans (List.filter_congr fun other hother => ?_)
    have hne : other ≠ id := fun heq => hid (heq ▸ hother)
    simp [hne]

/-- A stream that is opened is registered. -/
theorem Roll.opened (h : Roll cut server) {after : Server} (hsound : after.relay.hub.Sound)
    (hstreams : after.streams = server.streams ++ [⟨server.relay.hub.bus.nextId, .waiting⟩])
    (hregistered : after.relay.hub.bus.registered
      = server.relay.hub.bus.registered ++ [server.relay.hub.bus.nextId])
    (hnext : after.relay.hub.bus.nextId = server.relay.hub.bus.nextId + 1)
    (hidle : after.relay.hub.isBusy = false) (hupcoming : after.upcoming = none) :
    Roll cut after := by
  have hcreated : ∀ id, after.relay.hub.bus.IsCreated id
      ↔ server.relay.hub.bus.IsCreated id ∨ id = server.relay.hub.bus.nextId := by
    intro id
    rw [Bus.IsCreated, hnext]
    exact h.sound.bus.isCreated_subscribe id
  constructor
  · exact hsound
  · rw [hstreams, List.map_append, List.pairwise_append]
    refine ⟨h.ascending, List.pairwise_singleton _ _, fun id hid next hnextMem => ?_⟩
    obtain ⟨stream, hstream, rfl⟩ := List.mem_map.mp hid
    rw [List.mem_singleton.mp hnextMem]
    exact (h.created stream hstream).2
  · intro stream hstream
    rw [hstreams, List.mem_append, List.mem_singleton] at hstream
    rw [hcreated]
    rcases hstream with hstream | rfl
    · exact Or.inl (h.created stream hstream)
    · exact Or.inr rfl
  · exact fun id hid => (hcreated id).mpr (Or.inl (h.cut_created id hid))
  · -- the number that was given out has never been cut off
    have hnew : server.relay.hub.bus.nextId ∉ cut :=
      fun hcut => Nat.lt_irrefl _ (h.cut_created _ hcut).2
    rw [hregistered, h.registered, running_append hstreams, List.filter_append, List.filter_singleton,
      decide_eq_true hnew]
    rfl
  · intro id
    constructor
    · intro hstream
      rw [hupcoming] at hstream
      cases hstream
    · intro hjoining
      exact absurd hjoining (Hub.not_isJoining hidle id)

/-- A publication, a replay or a delivery keeps the roll: a stream runs from when its viewer is
registered. -/
theorem Roll.moveHub (h : Roll cut server) (upcoming : Option Upcoming) {move : RelayMove}
    (hsound : (server.relay.step move).1.hub.Sound)
    (hcourse : Hub.Course server.relay.hub upcoming (server.relay.step move).1.hub) :
    Roll cut (Server.moveHub { server with upcoming := upcoming } move).1 := by
  let moved := (Server.moveRelay { server with upcoming := upcoming } move).1
  have hrelay : moved.conclude.1.relay = moved.relay := (conclude_relay moved).1
  show Roll cut moved.conclude.1
  rcases hcourse with ⟨hregistered, hnext, hreplay, hupcoming⟩ |
    ⟨hregistered, hnext, hreplay, hupcoming⟩ | ⟨hregistered, hnext, hidle, hupcoming⟩
  · have hnone : ∀ id, moved.upcoming ≠ some (.stream id) := hupcoming
    obtain ⟨hstreams, hstill⟩ := conclude_of_no_stream hnone
    have hrunning : moved.conclude.1.running = server.running := by
      rw [running, hstreams]
      rfl
    refine h.of_frame ?_ ?_ (fun id => ?_) ?_ h.cut_created ?_
    · rw [hrelay]
      exact hsound
    · rw [hrelay]
      exact hnext
    · rw [hrelay, iff_false_left (hstill id), Hub.IsJoining]
      show ¬((server.relay.step move).1.hub.replay.isSome = true ∧ _)
      rw [hreplay]
      simp
    · rw [hstreams]
      exact List.Sublist.refl _
    · rw [hrelay, hrunning]
      exact hregistered.trans h.registered
  · have hbusy : moved.relay.hub.isBusy = true := by
      rw [Hub.isBusy, Bool.or_eq_true]
      exact Or.inl hreplay
    rw [conclude_of_busy hbusy]
    refine h.of_frame hsound hnext (fun id => ?_) (List.Sublist.refl _) h.cut_created
      (hregistered.trans h.registered)
    show upcoming = some (.stream id) ↔ (server.relay.step move).1.hub.IsJoining id
    rw [hupcoming, Hub.IsJoining, hnext, hreplay]
    simp [eq_comm]
  · rw [conclude_of_stream hidle hupcoming]
    exact h.opened hsound rfl hregistered hnext hidle rfl

/-- What waits for the hub keeps the roll if it does so once the hub is idle. -/
theorem Roll.begin (h : Roll cut server) {move : RelayMove} {upcoming : Option Upcoming}
    (hcourse : server.relay.hub.isBusy = false →
      Hub.Course server.relay.hub upcoming (server.relay.step move).1.hub) :
    Roll cut (server.begin move upcoming).1 := by
  unfold Server.begin
  split
  · exact h
  · next hbusy =>
      rw [Bool.not_eq_true] at hbusy
      exact h.moveHub upcoming (sound_relay h.sound move) (hcourse hbusy)

/-- A running stream that does something else keeps the roll, if the hub is left as it is. -/
theorem Roll.setPhase (h : Roll cut server) {relay : Relay}
    (hhub : relay.hub = server.relay.hub) {phase other : StreamPhase}
    (hphase : server.phase? id = some phase) (hbefore : phase.isRunning = true)
    (hafter : other.isRunning = true) :
    Roll cut (Server.setPhase { server with relay := relay } id other) := by
  have hrunning : (Server.setPhase { server with relay := relay } id other).running
      = server.running := running_setPhase_of_running h.nodup hphase hbefore hafter
  refine h.of_frame ?_ ?_ (fun stream => ?_) ?_ h.cut_created ?_
  · show relay.hub.Sound
    rw [hhub]
    exact h.sound
  · exact congrArg (fun hub => hub.bus.nextId) hhub
  · show server.upcoming = _ ↔ relay.hub.IsJoining stream
    rw [hhub]
    exact h.upcoming stream
  · rw [map_id_setPhase { server with relay := relay }]
  · rw [hrunning]
    show relay.hub.bus.registered = _
    rw [hhub]
    exact h.registered

/-! ## Steps and runs -/

/-- What a move can do keeps the roll. -/
theorem Roll.steps (h : Roll cut server) {cutNow : Option SubscriptionId}
    {moved : Server × List ServerEvent} (hsteps : Steps server cutNow moved) :
    Roll (cut ++ cutNow.toList) moved.1 := by
  have hnobody : cut ++ (none : Option SubscriptionId).toList = cut := List.append_nil cut
  cases hsteps with
  | stays hrelay hstreams hupcoming htale =>
      rw [hnobody]
      refine h.of_frame ?_ ?_ (fun id => ?_) ?_ h.cut_created ?_
      · rw [hrelay]
        exact h.sound
      · rw [hrelay]
      · rw [hrelay, hupcoming]
        exact h.upcoming id
      · rw [hstreams]
      · rw [hrelay, running, hstreams]
        exact h.registered
  | advances hmove hcourse =>
      rw [hnobody]
      exact h.moveHub _ (sound_relay h.sound _) hcourse
  | @takes id message hgiven =>
      rw [hnobody, take, hgiven]
      exact h.setPhase (Relay.step_receive_hub _ id) (given?_eq_some hgiven).1 rfl rfl
  | writes hphase =>
      rw [hnobody, written, hphase]
      exact h.setPhase rfl hphase rfl rfl
  | ends hphase hrunning =>
      rw [hnobody]
      exact h.finish _ _
  | leaves hphase =>
      rw [hnobody]
      exact h.leave hphase
  | detaches => exact h.detach _

/-- A move keeps the roll. -/
theorem Roll.step (h : Roll cut server) (move : ServerMove) :
    Roll (cut ++ (server.cutBy? move).toList) (server.step move).1 :=
  h.steps (steps_step h.sound h.upcoming move)

/-- **The roll of a run**: those whose streams run are registered, but for those that others have
cut off. -/
theorem Roll.run (h : Roll cut server) (moves : List ServerMove) :
    Roll (cut ++ server.cutOff moves) (server.run moves).1 := by
  induction moves generalizing cut server with
  | nil =>
      rw [cutOff, List.append_nil]
      exact h
  | cons move moves ih =>
      have hlater := ih (h.step move)
      rw [List.append_assoc] at hlater
      exact hlater

end Server

end ReportRelay
