/-
# A server as a relay with connections beside it

The moves of a server drive its relay by moves of the relay (`Server.run_relay`), so all that
holds of the hub and the queues of a relay holds of those of a server.  The reports that the
relay takes are those that the server has published: the documents in the bodies that were posted
while the hub was idle.
-/
import ReportRelay.Proofs.Relay.Room
import ReportRelay.Server.Stream

namespace ReportRelay

/-- The report that a move of a server is to publish. -/
def ServerMove.report? : ServerMove → Option Json
  | .request posted => posted.outcome.1
  | .ingest report => some report
  | _ => none

namespace Server

/-! ## The moves and events of the relay -/

/-- The event of the relay that an event of a server is. -/
def relayEvent? : ServerEvent → Option RelayEvent
  | .relay event => some event
  | _ => none

/-- The events of the relay among those of a server. -/
def relayEvents (events : List ServerEvent) : List RelayEvent := events.filterMap relayEvent?

@[simp] theorem relayEvents_nil : relayEvents [] = [] := rfl

@[simp] theorem relayEvents_append (events later : List ServerEvent) :
    relayEvents (events ++ later) = relayEvents events ++ relayEvents later :=
  List.filterMap_append

@[simp] theorem relayEvents_map_relay (events : List RelayEvent) :
    relayEvents (events.map .relay) = events := by
  rw [relayEvents, List.filterMap_map]
  exact List.filterMap_some

/-- A move of the relay that waits for the hub. -/
def whenIdle (server : Server) (move : RelayMove) : List RelayMove :=
  if server.relay.hub.isBusy then [] else [move]

/-- The moves of the relay that a move of a server makes if it ends no stream. -/
def relayProceed (server : Server) : ServerMove → List RelayMove
  | .request posted =>
    match posted.outcome.1 with
    | some report => server.whenIdle (.hub (.ingest report))
    | none => []
  | .ingest report => server.whenIdle (.hub (.ingest report))
  | .openStream target =>
    if Route.ofTarget? target = some .stream then
      server.whenIdle (.attachViewer server.relay.hub.config.queue)
    else []
  | .deliver => [.deliver]
  | .take id =>
    match server.given? id with
    | some (.item _) => [.receive id]
    | _ => []
  | .leave id =>
    match server.phase? id with
    | some .leaving => [.hub (.discard id), .dropReceiver id]
    | _ => []
  | .detach id => [.hub (.detach id)]
  | .written _ | .writeFails _ | .viewerSays _ | .viewerCloses _ | .readFails _ | .shutdown
  | .takeShutdown _ => []

/-- The moves of the relay that a move of a server makes. -/
def relayStep (server : Server) (move : ServerMove) : List RelayMove :=
  match server.ending? move with
  | some (id, _) => [.hub (.release id)]
  | none => server.relayProceed move

/-- The moves of the relay that moves of a server make. -/
def relayMoves (server : Server) : List ServerMove → List RelayMove
  | [] => []
  | move :: moves => server.relayStep move ++ relayMoves (server.step move).1 moves

/-- The first of several moves is a step. -/
theorem run_cons (server : Server) (move : ServerMove) (moves : List ServerMove) :
    server.run (move :: moves)
      = (((server.step move).1.run moves).1,
        (server.step move).2 ++ ((server.step move).1.run moves).2) :=
  rfl

/-- A move of the server makes moves of its relay. -/
structure Drives (server : Server) (moves : List RelayMove) (moved : Server × List ServerEvent) :
    Prop where
  relay : moved.1.relay = (server.relay.run moves).1
  events : relayEvents moved.2 = (server.relay.run moves).2

variable {server : Server}

/-- What does not touch the relay makes none of its moves. -/
theorem drives_nil {moved : Server × List ServerEvent} (hrelay : moved.1.relay = server.relay)
    (hevents : relayEvents moved.2 = []) : Drives server [] moved :=
  ⟨hrelay, hevents⟩

/-- One move of the relay. -/
theorem drives_moveRelay (server : Server) (move : RelayMove) :
    Drives server [move] (server.moveRelay move) := by
  constructor
  · rfl
  · show relayEvents ((server.relay.step move).2.map .relay) = (server.relay.step move).2 ++ []
    rw [relayEvents_map_relay, List.append_nil]

/-- What was to come does not touch the relay. -/
theorem conclude_relay (server : Server) :
    server.conclude.1.relay = server.relay ∧ relayEvents server.conclude.2 = [] := by
  unfold conclude
  split
  · exact ⟨rfl, rfl⟩
  · split <;> exact ⟨rfl, rfl⟩

/-- One move of the relay, after which the hub may be done. -/
theorem drives_moveHub (server : Server) (move : RelayMove) :
    Drives server [move] (server.moveHub move) := by
  obtain ⟨hrelay, hevents⟩ := drives_moveRelay server move
  obtain ⟨hconclude, hquiet⟩ := conclude_relay (server.moveRelay move).1
  constructor
  · exact hconclude.trans hrelay
  · show relayEvents ((server.moveRelay move).2 ++ (server.moveRelay move).1.conclude.2) = _
    rw [relayEvents_append, hquiet, List.append_nil, hevents]

/-- One move of the relay, if the hub is idle. -/
theorem drives_begin (server : Server) (move : RelayMove) (upcoming : Option Upcoming) :
    Drives server (server.whenIdle move) (server.begin move upcoming) := by
  unfold whenIdle begin
  split
  · exact drives_nil rfl rfl
  · have hmoved := drives_moveHub { server with upcoming := upcoming } move
    exact ⟨hmoved.relay, hmoved.events⟩

/-- The end of a stream removes its subscription. -/
theorem drives_finish (server : Server) (id : SubscriptionId) (reason : StreamReason) :
    Drives server [.hub (.release id)] (server.finish id reason) := by
  obtain ⟨hrelay, hevents⟩ := drives_moveRelay server (.hub (.release id))
  constructor
  · exact hrelay
  · show relayEvents ((server.moveRelay (.hub (.release id))).2 ++ [.ended id reason]) = _
    rw [relayEvents_append, hevents]
    exact List.append_nil _

/-- A move that ends no stream makes the moves of the relay that go with it. -/
theorem drives_proceed (server : Server) (move : ServerMove) :
    Drives server (server.relayProceed move) (server.proceed move) := by
  cases move with
  | request posted =>
      rw [relayProceed, proceed, answer]
      rcases posted.outcome with ⟨_ | report, response⟩
      · exact drives_nil rfl rfl
      · exact drives_begin server _ _
  | ingest report => exact drives_begin server _ _
  | openStream target =>
      rw [relayProceed, proceed, openStream]
      by_cases htarget : Route.ofTarget? target = some .stream
      · rw [if_pos htarget, if_pos htarget]
        exact drives_begin server _ _
      · rw [if_neg htarget, if_neg htarget]
        exact drives_nil rfl rfl
  | deliver => exact drives_moveHub server .deliver
  | take id =>
      rw [relayProceed, proceed, take]
      rcases server.given? id with _ | _ | _ | _
      · exact drives_nil rfl rfl
      · have hreceive := drives_moveRelay server (.receive id)
        exact ⟨hreceive.relay, hreceive.events⟩
      · exact drives_nil rfl rfl
      · exact drives_nil rfl rfl
  | written id =>
      rw [relayProceed, proceed, written]
      rcases server.phase? id with _ | _ | _ | _ <;> exact drives_nil rfl rfl
  | leave id =>
      rw [relayProceed, proceed, leave]
      rcases server.phase? id with _ | _ | _ | _
      · exact drives_nil rfl rfl
      · exact drives_nil rfl rfl
      · exact drives_nil rfl rfl
      · have hdiscard := drives_moveRelay server (.hub (.discard id))
        refine ⟨rfl, ?_⟩
        show relayEvents ((server.moveRelay (.hub (.discard id))).2 ++ []) = _
        rw [List.append_nil, hdiscard.events]
        rfl
  | shutdown => exact drives_nil rfl rfl
  | detach id => exact drives_moveRelay server _
  | writeFails id => exact drives_nil rfl rfl
  | viewerSays id => exact drives_nil rfl rfl
  | viewerCloses id => exact drives_nil rfl rfl
  | readFails id => exact drives_nil rfl rfl
  | takeShutdown id => exact drives_nil rfl rfl

/-- A move of a server makes the moves of its relay that go with it. -/
theorem drives_step (server : Server) (move : ServerMove) :
    Drives server (server.relayStep move) (server.step move) := by
  unfold relayStep step
  cases server.ending? move with
  | some ending => exact drives_finish server ending.1 ending.2
  | none => exact drives_proceed server move

/-- **A run of a server is a run of its relay.** -/
theorem run_relay (server : Server) (moves : List ServerMove) :
    ((server.run moves).1.relay, relayEvents (server.run moves).2)
      = server.relay.run (server.relayMoves moves) := by
  induction moves generalizing server with
  | nil => rfl
  | cons move moves ih =>
      obtain ⟨hrelay, hevents⟩ := drives_step server move
      have hlater := ih (server.step move).1
      rw [hrelay] at hlater
      rw [run_cons, relayMoves, Relay.run_append, ← hevents, relayEvents_append, ← hlater]

/-! ## What is published -/

/-- The report that a server publishes in a move: none while its hub is busy, for what comes then
is taken by a later move. -/
def published? (server : Server) (move : ServerMove) : Option Json :=
  if server.relay.hub.isBusy then none else move.report?

/-- The reports that a server publishes in the course of moves, in their order. -/
def published (server : Server) : List ServerMove → List Json
  | [] => []
  | move :: moves => (server.published? move).toList ++ published (server.step move).1 moves

/-- The relay takes a report that waits for the hub if the hub is idle. -/
theorem taken_whenIdle (server : Server) (report : Json) :
    server.relay.taken (server.whenIdle (.hub (.ingest report)))
      = (if server.relay.hub.isBusy then none else some report).toList := by
  unfold whenIdle
  cases hbusy : server.relay.hub.isBusy with
  | true => rfl
  | false => simp [Relay.taken, Relay.taken?, Relay.hubMove?, Hub.taken?, hbusy]

/-- Only a publication of the relay is one of its hub. -/
theorem eq_ingest_of_hubMove? {relay : Relay} {move : RelayMove} {report : Json}
    (h : relay.hubMove? move = some (.ingest report)) : move = .hub (.ingest report) := by
  cases move with
  | hub moved =>
      cases moved <;> simp [Relay.hubMove?] at h
      rw [h]
  | deliver => simp [Relay.hubMove?] at h
  | attachViewer capacity => simp [Relay.hubMove?] at h
  | receive id => simp [Relay.hubMove?] at h
  | dropReceiver id => simp [Relay.hubMove?] at h

/-- The relay takes no report but by a publication. -/
theorem taken_eq_nil {relay : Relay} {moves : List RelayMove}
    (h : ∀ report, .hub (.ingest report) ∉ moves) : relay.taken moves = [] := by
  induction moves generalizing relay with
  | nil => rfl
  | cons move moves ih =>
      have hmove : relay.taken? move = none := by
        rw [Relay.taken?, Option.bind_eq_none_iff]
        intro moved hmoved
        cases moved with
        | ingest report =>
            rw [eq_ingest_of_hubMove? hmoved] at h
            exact absurd List.mem_cons_self (h report)
        | _ => rfl
      rw [Relay.taken, hmove, ih fun report hmem => h report (List.mem_cons_of_mem _ hmem)]
      rfl

/-- A move that is to publish nothing makes the relay publish nothing. -/
theorem ingest_notMem_relayStep {move : ServerMove} (hmove : move.report? = none)
    (report : Json) : .hub (.ingest report) ∉ server.relayStep move := by
  unfold relayStep
  cases server.ending? move with
  | some ending => simp
  | none =>
      cases move with
      | request posted =>
          have hposted : posted.outcome.1 = none := hmove
          simp [relayProceed, hposted]
      | ingest other => cases hmove
      | openStream target =>
          simp only [relayProceed, whenIdle]
          split <;> [split <;> simp; simp]
      | take id =>
          simp only [relayProceed]
          split <;> simp
      | leave id =>
          simp only [relayProceed]
          split <;> simp
      | deliver => simp [relayProceed]
      | detach id => simp [relayProceed]
      | written id => simp [relayProceed]
      | shutdown => simp [relayProceed]
      | writeFails id => simp [relayProceed]
      | viewerSays id => simp [relayProceed]
      | viewerCloses id => simp [relayProceed]
      | readFails id => simp [relayProceed]
      | takeShutdown id => simp [relayProceed]

/-- The relay takes what the server publishes. -/
theorem taken_relayStep (server : Server) (move : ServerMove) :
    server.relay.taken (server.relayStep move) = (server.published? move).toList := by
  cases hreport : move.report? with
  | none =>
      rw [taken_eq_nil (ingest_notMem_relayStep hreport), published?, hreport, ite_self]
      rfl
  | some report =>
      have hstep : server.relayStep move = server.whenIdle (.hub (.ingest report)) := by
        cases move with
        | request posted =>
            have hposted : posted.outcome.1 = some report := hreport
            simp [relayStep, ending?, relayProceed, hposted]
        | ingest other =>
            rw [Option.some.inj hreport]
            rfl
        | _ => cases hreport
      rw [hstep, taken_whenIdle, published?, hreport]

/-- The relay takes what the server publishes, move after move. -/
theorem taken_relayMoves (server : Server) (moves : List ServerMove) :
    server.relay.taken (server.relayMoves moves) = server.published moves := by
  induction moves generalizing server with
  | nil => rfl
  | cons move moves ih =>
      rw [relayMoves, Relay.taken_append, taken_relayStep, ← (drives_step server move).relay, ih]
      rfl

end Server

end ReportRelay
