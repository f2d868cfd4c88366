/-
# What is rejected changes nothing

To all but those who ask, a request with a document in its body is the publication of that
document, and a request without one is nothing, and so is what a viewer says.  A run of a server
is compared with the run from which such moves are left out: the servers are the same but for the
responses that are to come, and so are the events but for the responses (`matches_run`).
-/
import ReportRelay.Proofs.Server.Moves

namespace ReportRelay

/-- What a move is to all but its sender: a publication if it is a request with a document, and
nothing if it is another request or the word of a viewer. -/
def ServerMove.essence? : ServerMove → Option ServerMove
  | .request posted => posted.outcome.1.map .ingest
  | .viewerSays _ => none
  | move => some move

/-- Tells whether an event is the response to a request. -/
def ServerEvent.isResponse : ServerEvent → Bool
  | .responded _ => true
  | _ => false

/-- What is to come but for a response. -/
def Upcoming.unasked? : Upcoming → Option Upcoming
  | .response _ => none
  | .stream id => some (.stream id)

namespace Server

/-- The events but for the responses. -/
def unanswered (events : List ServerEvent) : List ServerEvent :=
  events.filter fun event => !event.isResponse

@[simp] theorem unanswered_append (events later : List ServerEvent) :
    unanswered (events ++ later) = unanswered events ++ unanswered later :=
  List.filter_append ..

@[simp] theorem unanswered_map_relay (events : List RelayEvent) :
    unanswered (events.map .relay) = events.map .relay := by
  apply List.filter_eq_self.mpr
  intro event hevent
  obtain ⟨shown, -, rfl⟩ := List.mem_map.mp hevent
  rfl

/-- The server of which no response is to come. -/
def unasked (server : Server) : Server :=
  { server with upcoming := server.upcoming.bind Upcoming.unasked? }

/-- What a move shows is the same for a server of which no response is to come, but for the
response. -/
structure Matches (moved twin : Server × List ServerEvent) : Prop where
  state : moved.1.unasked = twin.1
  events : unanswered moved.2 = twin.2

variable {server : Server}

/-- Nothing happens to either. -/
theorem matches_stay (server : Server) : Matches (server, []) (server.unasked, []) :=
  ⟨rfl, rfl⟩

/-- One event after another. -/
theorem Matches.append {after twinAfter : Server} {events later twinEvents twinLater : List _}
    (h : unanswered events = twinEvents) (hlater : Matches (after, later) (twinAfter, twinLater)) :
    Matches (after, events ++ later) (twinAfter, twinEvents ++ twinLater) := by
  refine ⟨hlater.state, ?_⟩
  have hevents : unanswered later = twinLater := hlater.events
  rw [unanswered_append, h, hevents]

/-- The relay moves alike. -/
theorem matches_moveRelay (server : Server) (move : RelayMove) :
    Matches (server.moveRelay move) (server.unasked.moveRelay move) :=
  ⟨rfl, unanswered_map_relay _⟩

/-- What was to come is there but for a response. -/
theorem matches_conclude (server : Server) : Matches server.conclude server.unasked.conclude := by
  obtain ⟨relay, streams, upcoming, stopping⟩ := server
  unfold conclude unasked
  cases relay.hub.isBusy with
  | true => exact ⟨rfl, rfl⟩
  | false => rcases upcoming with _ | _ | _ <;> exact ⟨rfl, rfl⟩

/-- The relay moves alike, and what was to come is there but for a response. -/
theorem matches_moveHub (server : Server) (move : RelayMove) :
    Matches (server.moveHub move) (server.unasked.moveHub move) :=
  Matches.append (unanswered_map_relay _) (matches_conclude (server.moveRelay move).1)

/-- What waits for the hub begins alike. -/
theorem matches_begin (server : Server) (move : RelayMove) (upcoming : Option Upcoming) :
    Matches (server.begin move upcoming)
      (server.unasked.begin move (upcoming.bind Upcoming.unasked?)) := by
  have hbusy : server.unasked.relay.hub.isBusy = server.relay.hub.isBusy := rfl
  unfold begin
  rw [hbusy]
  split
  · exact matches_stay server
  · exact matches_moveHub { server with upcoming := upcoming } move

/-- The streams end alike. -/
theorem matches_finish (server : Server) (id : SubscriptionId) (reason : StreamReason) :
    Matches (server.finish id reason) (server.unasked.finish id reason) := by
  refine ⟨rfl, ?_⟩
  show unanswered ((server.moveRelay (.hub (.release id))).2 ++ [.ended id reason]) = _
  rw [unanswered_append, (matches_moveRelay server _).events]
  rfl

/-- A move that ends no stream shows the same as what it is to all but its sender. -/
theorem matches_proceed (server : Server) {move twin : ServerMove} (h : move.essence? = some twin) :
    Matches (server.proceed move) (server.unasked.proceed twin) := by
  cases move with
  | request posted =>
      obtain ⟨report, hreport, rfl⟩ := Option.map_eq_some_iff.mp h
      rw [proceed, answer]
      rcases hposted : posted.outcome with ⟨found, response⟩
      rw [hposted] at hreport
      cases hreport
      exact matches_begin server _ (some (.response response))
  | ingest report =>
      cases h
      exact matches_begin server _ none
  | openStream target =>
      cases h
      rw [proceed, proceed, openStream, openStream]
      split
      · exact matches_begin server _ (some (.stream _))
      · exact ⟨rfl, rfl⟩
  | deliver =>
      cases h
      exact matches_moveHub server .deliver
  | take id =>
      cases h
      have hgiven : server.unasked.given? id = server.given? id := rfl
      rw [proceed, proceed, take, take, hgiven]
      rcases server.given? id with _ | _ | _ | _
      · exact matches_stay server
      · exact ⟨rfl, unanswered_map_relay _⟩
      · exact matches_stay server
      · exact matches_stay server
  | written id =>
      cases h
      have hphase : server.unasked.phase? id = server.phase? id := rfl
      rw [proceed, proceed, written, written, hphase]
      rcases server.phase? id with _ | _ | _ | _ <;> exact ⟨rfl, rfl⟩
  | leave id =>
      cases h
      have hphase : server.unasked.phase? id = server.phase? id := rfl
      rw [proceed, proceed, leave, leave, hphase]
      rcases server.phase? id with _ | _ | _ | _
      · exact matches_stay server
      · exact matches_stay server
      · exact matches_stay server
      · exact Matches.append (unanswered_map_relay _) ⟨rfl, rfl⟩
  | shutdown =>
      cases h
      exact ⟨rfl, rfl⟩
  | detach id =>
      cases h
      exact matches_moveRelay server (.hub (.detach id))
  | writeFails id =>
      cases h
      exact matches_stay server
  | viewerCloses id =>
      cases h
      exact matches_stay server
  | readFails id =>
      cases h
      exact matches_stay server
  | takeShutdown id =>
      cases h
      exact matches_stay server
  | viewerSays id => cases h

/-- A move shows the same as what it is to all but its sender. -/
theorem matches_step (server : Server) {move twin : ServerMove} (h : move.essence? = some twin) :
    Matches (server.step move) (server.unasked.step twin) := by
  have hending : server.unasked.ending? twin = server.ending? move := by
    cases move with
    | request posted =>
        obtain ⟨report, -, rfl⟩ := Option.map_eq_some_iff.mp h
        rfl
    | viewerSays id => cases h
    | _ =>
        cases h
        rfl
  rw [step, step, hending]
  cases server.ending? move with
  | some ending => exact matches_finish server ending.1 ending.2
  | none => exact matches_proceed server h

/-- A move that is nothing to all but its sender changes nothing, and shows a response at most. -/
theorem step_of_essence_none (server : Server) {move : ServerMove} (h : move.essence? = none) :
    (server.step move).1 = server ∧ unanswered (server.step move).2 = [] := by
  cases move with
  | request posted =>
      have hposted : posted.outcome.1 = none := Option.map_eq_none_iff.mp h
      rw [step]
      show (server.answer posted).1 = server ∧ unanswered (server.answer posted).2 = []
      rw [answer]
      rcases houtcome : posted.outcome with ⟨found, response⟩
      rw [houtcome] at hposted
      cases hposted
      exact ⟨rfl, rfl⟩
  | viewerSays id => exact ⟨rfl, rfl⟩
  | _ => cases h

/-- **What is rejected, and what viewers say, changes nothing**: a run is the same without it, and
with the documents of the requests published by the owner of the hub. -/
theorem matches_run (server : Server) (moves : List ServerMove) :
    Matches (server.run moves) (server.unasked.run (moves.filterMap ServerMove.essence?)) := by
  induction moves generalizing server with
  | nil => exact matches_stay server
  | cons move moves ih =>
      have hlater := ih (server.step move).1
      cases hessence : move.essence? with
      | none =>
          obtain ⟨hstate, hevents⟩ := step_of_essence_none server hessence
          rw [hstate] at hlater
          rw [List.filterMap_cons_none hessence, run_cons, hstate]
          exact Matches.append hevents hlater
      | some twin =>
          obtain ⟨hstate, hevents⟩ := matches_step server hessence
          rw [List.filterMap_cons_some hessence, run_cons, run_cons, ← hstate]
          exact Matches.append hevents hlater

end Server

end ReportRelay
