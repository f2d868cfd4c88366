/-
# What a move can do to a server

A move of a server does one of seven things (`steps_step`): it is nothing to the streams, it lets
the hub go on, or a stream takes a message, writes its frame, ends or leaves, or a subscription is
removed by others.  All that is kept by the moves of a server is proved by these cases.

Where the hub goes on, the replay to a new subscriber has not ended, or it ends, and then the
subscriber is registered and its stream opened in the same step (`Hub.Course`).
-/
import ReportRelay.Proofs.Hub.Registration
import ReportRelay.Proofs.Server.Moves

namespace ReportRelay

namespace Hub

variable {hub : Hub}

/-! ## Attachments -/

/-- What a publication, a replay or a delivery is to the registrations, given what is to come once
the hub is done. -/
inductive Course (hub : Hub) (upcoming : Option Upcoming) (after : Hub) : Prop
  /-- Nobody is being attached. -/
  | publishes (hregistered : after.bus.registered = hub.bus.registered)
      (hnext : after.bus.nextId = hub.bus.nextId) (hreplay : after.replay = none)
      (hupcoming : ∀ id, upcoming ≠ some (.stream id))
  /-- The replay to a new subscriber goes on. -/
  | replays (hregistered : after.bus.registered = hub.bus.registered)
      (hnext : after.bus.nextId = hub.bus.nextId) (hreplay : after.replay.isSome = true)
      (hupcoming : upcoming = some (.stream hub.bus.nextId))
  /-- The replay has ended, and the subscriber is registered. -/
  | attaches (hregistered : after.bus.registered = hub.bus.registered ++ [hub.bus.nextId])
      (hnext : after.bus.nextId = hub.bus.nextId + 1) (hidle : after.isBusy = false)
      (hupcoming : upcoming = some (.stream hub.bus.nextId))

variable {upcoming : Option Upcoming}

/-- A replay goes on, or ends with the registration of its subscriber. -/
theorem course_replayOn (hrun : hub.bus.running = []) (accepted : Nat) (pending : List Message)
    (hupcoming : upcoming = some (.stream hub.bus.nextId)) :
    Course hub upcoming (hub.replayOn accepted pending).1 := by
  cases pending with
  | cons message pending => exact .replays rfl rfl rfl hupcoming
  | nil =>
      refine .attaches rfl rfl ?_ hupcoming
      exact (not_isBusy_iff _).mpr ⟨rfl, hrun⟩

/-- A publication attaches nobody. -/
theorem course_ingest (hidle : hub.isBusy = false) (report : Json)
    (hupcoming : ∀ id, upcoming ≠ some (.stream id)) :
    Course hub upcoming (hub.ingest report).1 := by
  refine .publishes ?_ ?_ (hub.not_isBusy_iff.mp hidle).1 hupcoming
  · exact Bus.turn_registered _ _ _ _
  · exact Bus.turn_nextId _ _ _ _

/-- The end of a delivery goes on with the replay, if one is running. -/
theorem Sound.course_finish (h : hub.Sound) (outcome : Outcome)
    (hupcoming : ∀ id, upcoming = some (.stream id) ↔ hub.IsJoining id) :
    Course hub upcoming (hub.finish outcome).1 := by
  unfold Hub.finish
  cases hreplay : hub.replay with
  | some replay =>
      have hsome : hub.replay.isSome = true := by rw [hreplay]; rfl
      exact course_replayOn (h.replay_alone hsome) _ _ ((hupcoming _).mpr ⟨hsome, rfl⟩)
  | none =>
      refine .publishes (Bus.finish_registered _ _) (Bus.finish_nextId _ _) hreplay ?_
      intro id hstream
      have hjoining := ((hupcoming id).mp hstream).1
      rw [hreplay] at hjoining
      cases hjoining

/-- Where the hub is left as it is, a replay goes on if one is running. -/
theorem course_stay (hupcoming : ∀ id, upcoming = some (.stream id) ↔ hub.IsJoining id) :
    Course hub upcoming hub := by
  cases hreplay : hub.replay with
  | some replay =>
      have hsome : hub.replay.isSome = true := by rw [hreplay]; rfl
      exact .replays rfl rfl hsome ((hupcoming _).mpr ⟨hsome, rfl⟩)
  | none =>
      refine .publishes rfl rfl hreplay ?_
      intro id hstream
      have hjoining := ((hupcoming id).mp hstream).1
      rw [hreplay] at hjoining
      cases hjoining

end Hub

/-- Tells whether who does this has not ended. -/
def StreamPhase.isRunning : StreamPhase → Bool
  | leaving => false
  | _ => true

namespace Server

variable {server : Server} {id : SubscriptionId}

/-! ## The tale of a stream -/

/-- Tells whether an event is about the stream of a subscription. -/
def isAbout (id : SubscriptionId) : ServerEvent → Bool
  | .opened other => other == id
  | .wrote other _ => other == id
  | .ended other _ => other == id
  | .relay (.received other _) => other == id
  | _ => false

/-- What can be seen of the stream of a subscription. -/
def tale (id : SubscriptionId) (events : List ServerEvent) : List ServerEvent :=
  events.filter (isAbout id)

@[simp] theorem tale_nil (id : SubscriptionId) : tale id [] = [] := rfl

@[simp] theorem tale_append (id : SubscriptionId) (events later : List ServerEvent) :
    tale id (events ++ later) = tale id events ++ tale id later :=
  List.filter_append ..

/-- The events of a hub are not about streams. -/
theorem tale_map_hub (id : SubscriptionId) (events : List HubEvent) :
    tale id ((events.map .hub).map .relay) = [] := by
  apply List.filter_eq_nil_iff.mpr
  intro event hevent
  rw [List.map_map] at hevent
  obtain ⟨shown, -, rfl⟩ := List.mem_map.mp hevent
  exact Bool.false_ne_true

/-- Nothing about a stream can be seen of the relay but what it receives. -/
theorem tale_moveRelay (server : Server) (id : SubscriptionId) {move : RelayMove}
    (hmove : ∀ other, move ≠ .receive other) : tale id (server.moveRelay move).2 = [] := by
  show tale id ((server.relay.step move).2.map .relay) = []
  cases move with
  | hub moved =>
      cases moved with
      | finish outcome =>
          rw [Relay.step, Relay.finish]
          split
          · rfl
          · exact tale_map_hub id _
      | ingest report => exact tale_map_hub id _
      | attach => exact tale_map_hub id _
      | detach other => exact tale_map_hub id _
      | release other => exact tale_map_hub id _
      | discard other => exact tale_map_hub id _
  | attachViewer capacity =>
      rw [Relay.step, Relay.attachViewer]
      split
      · rfl
      · exact tale_map_hub id _
  | deliver =>
      rw [Relay.step, Relay.deliver]
      split
      · rfl
      · exact tale_map_hub id _
  | receive other => exact absurd rfl (hmove other)
  | dropReceiver other => rfl

/-! ## What streams do -/

/-- The subscriptions of the running streams, in the order in which they were opened. -/
def running (server : Server) : List SubscriptionId :=
  (server.streams.filter fun stream => stream.phase.isRunning).map Stream.id

/-- The subscription of a running stream that others remove in a move. -/
def cutBy? (server : Server) : ServerMove → Option SubscriptionId
  | .detach id => if id ∈ server.running then some id else none
  | _ => none

/-- A stream does what is noted of it. -/
theorem exists_of_phase? {phase : StreamPhase} (h : server.phase? id = some phase) :
    ∃ stream ∈ server.streams, stream.id = id ∧ stream.phase = phase := by
  obtain ⟨stream, hfind, rfl⟩ := Option.map_eq_some_iff.mp h
  exact ⟨stream, List.mem_of_find?_eq_some hfind, by simpa using List.find?_some hfind, rfl⟩

/-- Who waits is noted as waiting. -/
theorem phase?_of_isWaiting (h : server.isWaiting id = true) :
    server.phase? id = some .waiting := by
  unfold isWaiting at h
  split at h
  · assumption
  · cases h

/-- A queue gives something to a stream that waits. -/
theorem given?_eq_some {what : Received Message} (h : server.given? id = some what) :
    server.phase? id = some .waiting ∧
      ∃ queue, server.relay.queue? id = some queue ∧ queue.receive.2 = what := by
  unfold given? at h
  split at h
  · next hwaiting => exact ⟨phase?_of_isWaiting hwaiting, Option.map_eq_some_iff.mp h⟩
  · cases h

/-- A move ends only streams that wait or write a frame. -/
theorem phase?_of_ending {move : ServerMove} {reason : StreamReason}
    (h : server.ending? move = some (id, reason)) :
    ∃ phase, server.phase? id = some phase ∧ phase.isRunning = true := by
  have hwaits : ∀ other, server.isWaiting other = true → other = id →
      ∃ phase, server.phase? id = some phase ∧ phase.isRunning = true := by
    rintro other hwaiting rfl
    exact ⟨_, phase?_of_isWaiting hwaiting, rfl⟩
  unfold ending? at h
  split at h
  · split at h
    · next hgiven =>
        cases h
        exact ⟨_, (given?_eq_some hgiven).1, rfl⟩
    · cases h
  · split at h
    · next hphase =>
        cases h
        exact ⟨_, hphase, rfl⟩
    · cases h
  · split at h
    · next hwaiting => exact hwaits _ hwaiting (Prod.mk.inj (Option.some.inj h)).1
    · cases h
  · split at h
    · next hwaiting => exact hwaits _ hwaiting (Prod.mk.inj (Option.some.inj h)).1
    · cases h
  · split at h
    · next hboth =>
        rw [Bool.and_eq_true] at hboth
        exact hwaits _ hboth.1 (Prod.mk.inj (Option.some.inj h)).1
    · cases h
  · cases h

/-! ## Steps -/

/-- What a move can do to a server, with the subscription of a running stream that it cuts off. -/
inductive Steps (server : Server) : Option SubscriptionId → Server × List ServerEvent → Prop
  /-- Nothing happens to the streams. -/
  | stays {moved : Server × List ServerEvent} (hrelay : moved.1.relay = server.relay)
      (hstreams : moved.1.streams = server.streams)
      (hupcoming : moved.1.upcoming = server.upcoming) (htale : ∀ id, tale id moved.2 = []) :
      Steps server none moved
  /-- The hub goes on. -/
  | advances {move : RelayMove} {upcoming : Option Upcoming}
      (hmove : ∀ id, move ≠ .receive id)
      (hcourse : Hub.Course server.relay.hub upcoming (server.relay.step move).1.hub) :
      Steps server none (Server.moveHub { server with upcoming := upcoming } move)
  /-- A stream takes a message. -/
  | takes {id : SubscriptionId} {message : Message}
      (hgiven : server.given? id = some (.item message)) : Steps server none (server.take id)
  /-- A stream has written the frame of a message. -/
  | writes {id : SubscriptionId} {message : Message}
      (hphase : server.phase? id = some (.writing message)) : Steps server none (server.written id)
  /-- A stream that waits or writes ends. -/
  | ends {id : SubscriptionId} {reason : StreamReason} {phase : StreamPhase}
      (hphase : server.phase? id = some phase) (hrunning : phase.isRunning = true) :
      Steps server none (server.finish id reason)
  /-- A stream that has ended leaves. -/
  | leaves {id : SubscriptionId} (hphase : server.phase? id = some .leaving) :
      Steps server none (server.leave id)
  /-- A subscription is removed by others. -/
  | detaches {id : SubscriptionId} :
      Steps server (server.cutBy? (.detach id)) (server.moveRelay (.hub (.detach id)))

/-- Whether a stream is to come is whether a viewer is being attached. -/
def Expects (server : Server) : Prop :=
  ∀ id, server.upcoming = some (.stream id) ↔ server.relay.hub.IsJoining id

/-- What is nothing to the streams shows nothing about them. -/
theorem steps_stay (server : Server) {events : List ServerEvent}
    (htale : ∀ id, tale id events = []) : Steps server none (server, events) :=
  .stays rfl rfl rfl htale

/-- A publication lets an idle hub go on. -/
theorem steps_ingest (server : Server) (report : Json) {upcoming : Option Upcoming}
    (hupcoming : ∀ id, upcoming ≠ some (.stream id)) :
    Steps server none (server.begin (.hub (.ingest report)) upcoming) := by
  unfold begin
  split
  · exact steps_stay server fun _ => rfl
  · next hbusy =>
      rw [Bool.not_eq_true] at hbusy
      refine .advances (fun _ heq => by cases heq) ?_
      show Hub.Course server.relay.hub upcoming (server.relay.hub.step (.ingest report)).1
      rw [Hub.step, hbusy]
      exact Hub.course_ingest hbusy report hupcoming

/-- A viewer who asks for a stream lets an idle hub go on. -/
theorem steps_openStream (server : Server) (target : String) :
    Steps server none (server.openStream target) := by
  unfold openStream
  split
  · unfold begin
    split
    · exact steps_stay server fun _ => rfl
    · next hbusy =>
        rw [Bool.not_eq_true] at hbusy
        have hrun := (server.relay.hub.not_isBusy_iff.mp hbusy).2
        have hstep : (server.relay.step (.attachViewer server.relay.hub.config.queue)).1.hub
            = (server.relay.hub.replayOn 0 server.relay.hub.history.items).1 := by
          rw [Relay.step, Relay.attachViewer, hbusy, Hub.step, hbusy]
          rfl
        refine .advances (fun _ heq => by cases heq) ?_
        rw [hstep]
        exact Hub.course_replayOn hrun 0 _ rfl
  · exact steps_stay server fun _ => rfl

/-- A delivery lets the hub go on. -/
theorem steps_deliver (hsound : server.relay.hub.Sound) (hexpects : server.Expects) :
    Steps server none (server.moveHub .deliver) := by
  refine .advances (fun _ heq => by cases heq) ?_
  show Hub.Course server.relay.hub server.upcoming server.relay.deliver.1.hub
  cases hdelivering : server.relay.delivering? with
  | none =>
      rw [Relay.deliver, hdelivering]
      exact Hub.course_stay hexpects
  | some delivery =>
      obtain ⟨id, message, queue⟩ := delivery
      rw [Relay.deliver_eq hdelivering]
      exact hsound.course_finish _ hexpects

/-- A stream takes a message, or nothing. -/
theorem steps_take (server : Server) (id : SubscriptionId) :
    Steps server none (server.take id) := by
  by_cases hgiven : ∃ message, server.given? id = some (.item message)
  · obtain ⟨message, hgiven⟩ := hgiven
    exact .takes hgiven
  · have hstay : server.take id = (server, []) := by
      rw [take]
      split
      · next message hmessage => exact absurd ⟨message, hmessage⟩ hgiven
      · rfl
    rw [hstay]
    exact steps_stay server fun _ => rfl

/-- A stream that writes has written its frame; another has not. -/
theorem steps_written (server : Server) (id : SubscriptionId) :
    Steps server none (server.written id) := by
  by_cases hphase : ∃ message, server.phase? id = some (.writing message)
  · obtain ⟨message, hphase⟩ := hphase
    exact .writes hphase
  · have hstay : server.written id = (server, []) := by
      rw [written]
      split
      · next message hmessage => exact absurd ⟨message, hmessage⟩ hphase
      · rfl
    rw [hstay]
    exact steps_stay server fun _ => rfl

/-- A stream that has ended leaves; another does not. -/
theorem steps_leave (server : Server) (id : SubscriptionId) :
    Steps server none (server.leave id) := by
  by_cases hphase : server.phase? id = some .leaving
  · exact .leaves hphase
  · have hstay : server.leave id = (server, []) := by
      rw [leave]
      split
      · next hleaving => exact absurd hleaving hphase
      · rfl
    rw [hstay]
    exact steps_stay server fun _ => rfl

/-- A move that ends no stream does one of these things. -/
theorem steps_proceed (hsound : server.relay.hub.Sound) (hexpects : server.Expects)
    (move : ServerMove) : Steps server (server.cutBy? move) (server.proceed move) := by
  cases move with
  | request posted =>
      show Steps server none (server.answer posted)
      rw [answer]
      rcases posted.outcome with ⟨_ | report, response⟩
      · exact steps_stay server fun _ => rfl
      · exact steps_ingest server report fun id heq => by cases heq
  | ingest report => exact steps_ingest server report fun id heq => by cases heq
  | openStream target => exact steps_openStream server target
  | deliver => exact steps_deliver hsound hexpects
  | take id => exact steps_take server id
  | written id => exact steps_written server id
  | leave id => exact steps_leave server id
  | shutdown => exact .stays rfl rfl rfl fun _ => rfl
  | detach id => exact .detaches
  | writeFails id => exact steps_stay server fun _ => rfl
  | viewerSays id => exact steps_stay server fun _ => rfl
  | viewerCloses id => exact steps_stay server fun _ => rfl
  | readFails id => exact steps_stay server fun _ => rfl
  | takeShutdown id => exact steps_stay server fun _ => rfl

/-- **A move does one of these things.** -/
theorem steps_step (hsound : server.relay.hub.Sound) (hexpects : server.Expects)
    (move : ServerMove) : Steps server (server.cutBy? move) (server.step move) := by
  unfold step
  cases hending : server.ending? move with
  | none => exact steps_proceed hsound hexpects move
  | some ending =>
      obtain ⟨phase, hphase, hrunning⟩ := phase?_of_ending hending
      have hcut : server.cutBy? move = none := by
        cases move with
        | detach id => cases hending
        | _ => rfl
      rw [hcut]
      exact .ends hphase hrunning

end Server

end ReportRelay
