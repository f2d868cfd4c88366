/-
# The states that a client publishes

`ClientState.Leads` has the four changes that a client makes of its state.  A client is in one
state in each phase, and every move of it publishes a chain of such changes from the state before
the move to the state after it (`Client.Course`).  Chains that meet go on in one another, so what
a whole run publishes is one chain (`changes_of_run`).

Attempts to open a connection are numbered, and each is announced by a change of its own: the
announcements and attempts of a run are those of all numbers in their order.
-/
import Mathlib.Data.List.Chain
import ReportRelay.Proofs.Client.Sessions

namespace ReportRelay

/-! ## Changes of state -/

/-- The changes that a client makes of its state. -/
inductive ClientState.Leads : ClientState → ClientState → Prop
  /-- An attempt to open a connection starts. -/
  | attempt : Leads .disconnected .connecting
  /-- The attempt brings a connection. -/
  | success : Leads .connecting .connected
  /-- The attempt fails, or is given up. -/
  | failure : Leads .connecting .disconnected
  /-- The connection ends. -/
  | ending : Leads .connected .disconnected

/-- A change leads to another state. -/
theorem ClientState.Leads.ne {state next : ClientState} (h : state.Leads next) : state ≠ next := by
  cases h <;> decide

/-- From no connection a change leads to an attempt. -/
theorem ClientState.Leads.eq_connecting {next : ClientState}
    (h : ClientState.disconnected.Leads next) : next = .connecting := by
  cases h
  rfl

/-- Every other state leads to no connection. -/
theorem ClientState.leads_disconnected {state : ClientState} (h : state ≠ .disconnected) :
    state.Leads .disconnected := by
  cases state with
  | disconnected => exact absurd rfl h
  | connecting => exact .failure
  | connected => exact .ending

/-- States that follow on one another from the first state to the second. -/
inductive ClientState.Path : ClientState → List ClientState → ClientState → Prop
  /-- Nothing is changed. -/
  | nil {state : ClientState} : Path state [] state
  /-- A change, and those after it. -/
  | cons {state next last : ClientState} {later : List ClientState} (hnext : state.Leads next)
      (hlater : Path next later last) : Path state (next :: later) last

namespace ClientState.Path

variable {state middle last : ClientState} {states later : List ClientState}

/-- One change is a path. -/
theorem single (h : state.Leads last) : Path state [last] last := .cons h .nil

/-- Paths that meet are one path. -/
theorem append (h : Path state states middle) (hlater : Path middle later last) :
    Path state (states ++ later) last := by
  induction h with
  | nil => exact hlater
  | cons hnext _ ih => exact .cons hnext (ih hlater)

/-- The states of a path are a chain of changes. -/
theorem isChain (h : Path state states last) : List.IsChain Leads (state :: states) := by
  induction h with
  | nil => exact .singleton _
  | cons hnext _ ih => exact .cons_cons hnext ih

/-- A path ends with its last state. -/
theorem getLastD_eq (h : Path state states last) : states.getLastD state = last := by
  induction h with
  | nil => rfl
  | cons hnext _ ih => rw [List.getLastD_cons, ih]

end ClientState.Path

/-- The state in which a client is in a phase. -/
def Phase.state : Phase → ClientState
  | .idle => .disconnected
  | .opening => .connecting
  | .reading => .connected
  | .consuming _ => .connected
  | .closing _ => .connected
  | .waiting _ => .disconnected
  | .stopped => .disconnected

/-! ## States and attempts in events -/

/-- The state that an event publishes. -/
def ClientEvent.changed? : ClientEvent → Option ClientState
  | .changed state => some state
  | _ => none

/-- Tells whether an event is an attempt to open a connection, or announces one. -/
def ClientEvent.isSeeking : ClientEvent → Bool
  | .changed .connecting => true
  | .attempted _ => true
  | _ => false

namespace Client

/-- The states that events publish, in their order. -/
def changes (events : List ClientEvent) : List ClientState :=
  events.filterMap ClientEvent.changed?

/-- The attempts among events, with their announcements. -/
def seeking (events : List ClientEvent) : List ClientEvent := events.filter ClientEvent.isSeeking

/-- What is seen of the first attempts, so many of them: each after its announcement. -/
def attempts (count : Nat) : List ClientEvent :=
  (List.range count).flatMap fun earlier => [.changed .connecting, .attempted (earlier + 1)]

@[simp] theorem changes_append (events later : List ClientEvent) :
    changes (events ++ later) = changes events ++ changes later :=
  List.filterMap_append

@[simp] theorem seeking_append (events later : List ClientEvent) :
    seeking (events ++ later) = seeking events ++ seeking later :=
  List.filter_append _ _

/-- One more attempt comes after those before it. -/
theorem attempts_succ (count : Nat) :
    attempts (count + 1) = attempts count ++ [.changed .connecting, .attempted (count + 1)] := by
  rw [attempts, List.range_succ, List.flatMap_append, List.flatMap_singleton, attempts]

/-! ## Courses -/

/-- What is seen of a client on the way from one of its states to another: what it publishes is a
path between them, and its attempts are the next ones. -/
structure Course (client after : Client) (events : List ClientEvent) : Prop where
  path : client.state.Path (changes events) after.state
  attempts : attempts client.attempt ++ seeking events = attempts after.attempt

/-- Nothing is seen of a client that stays in its state. -/
theorem Course.stay {client after : Client} (hstate : after.state = client.state)
    (hattempt : after.attempt = client.attempt) : Course client after [] where
  path := by
    rw [hstate]
    exact .nil
  attempts := by rw [hattempt]; exact List.append_nil _

/-- Courses that meet are one course. -/
theorem Course.trans {client middle after : Client} {events later : List ClientEvent}
    (h : Course client middle events) (hlater : Course middle after later) :
    Course client after (events ++ later) where
  path := by
    rw [changes_append]
    exact h.path.append hlater.path
  attempts := by rw [seeking_append, ← List.append_assoc, h.attempts, hlater.attempts]

/-- Other events may come before a course. -/
theorem Course.cons {client after : Client} {event : ClientEvent} {events : List ClientEvent}
    (h : Course client after events) (hchanged : event.changed? = none)
    (hseeking : event.isSeeking = false) : Course client after (event :: events) where
  path := by
    rw [changes, List.filterMap_cons, hchanged]
    exact h.path
  attempts := by
    rw [seeking, List.filter_cons, hseeking]
    exact h.attempts

/-- Publishing the end of an attempt or a connection is a course, and so is publishing again that
there is none. -/
theorem course_publish_disconnected (client : Client) :
    Course client (client.publish .disconnected).1 (client.publish .disconnected).2 := by
  unfold publish
  split
  · exact .stay rfl rfl
  · next hstate =>
      exact ⟨.single (ClientState.leads_disconnected hstate), List.append_nil _⟩

/-! ## Moves -/

/-- What comes of a move is a course of the client to a phase in which it is in its state. -/
structure Proceeds (client : Client) (moved : Client × List ClientEvent) : Prop where
  course : Course client moved.1 moved.2
  settled : moved.1.state = moved.1.phase.state

/-- A client that stays in its state proceeds to a phase in which it is in that state. -/
theorem Proceeds.stay {client after : Client} (hstate : after.state = client.state)
    (hattempt : after.attempt = client.attempt) (hsettled : client.state = after.phase.state) :
    Proceeds client (after, []) :=
  ⟨.stay hstate hattempt, hstate.trans hsettled⟩

/-- Other events may come first. -/
theorem Proceeds.cons {client after : Client} {event : ClientEvent} {events : List ClientEvent}
    (h : Proceeds client (after, events)) (hchanged : event.changed? = none)
    (hseeking : event.isSeeking = false) : Proceeds client (after, event :: events) :=
  ⟨h.course.cons hchanged hseeking, h.settled⟩

/-- A client that publishes that there is no connection goes on from there. -/
theorem Proceeds.disconnected {client after : Client} {events : List ClientEvent}
    (h : Proceeds { client with state := .disconnected } (after, events)) :
    Proceeds client (after, (client.publish .disconnected).2 ++ events) := by
  have hpublish := course_publish_disconnected client
  rw [publish_fst] at hpublish
  exact ⟨hpublish.trans h.course, h.settled⟩

/-- A client stops without a connection. -/
theorem proceeds_stop (client : Client) : Proceeds client client.stop := by
  have hstay : Proceeds { client with state := .disconnected }
      ({ client with state := .disconnected, phase := .stopped }, []) := .stay rfl rfl rfl
  rw [stop, publish_eq]
  exact (hstay.cons rfl rfl).disconnected

/-- A client whose attempt has failed waits without a connection. -/
theorem proceeds_takeRefusal (client : Client) (error : ClientError) :
    Proceeds client (client.takeRefusal error) := by
  have hstay : Proceeds { client with state := .disconnected }
      ({ client with state := .disconnected, phase := .waiting 0 }, []) := .stay rfl rfl rfl
  have hpublish : ({ client with phase := .waiting 0 } : Client).publish .disconnected
      = ({ client with state := .disconnected, phase := .waiting 0 },
        (client.publish .disconnected).2) := by
    unfold publish
    split <;> simp_all
  rw [takeRefusal, hpublish]
  exact (hstay.cons rfl rfl).disconnected

/-- A client without a connection starts an attempt, or stops. -/
theorem proceeds_beginAttempt {client : Client} (h : client.state = .disconnected) :
    Proceeds client client.beginAttempt := by
  by_cases hcancelled : client.cancelled
  · rw [beginAttempt, if_pos hcancelled]
    exact proceeds_stop client
  · rw [beginAttempt_of_disconnected h hcancelled]
    refine ⟨⟨?_, (attempts_succ client.attempt).symm⟩, rfl⟩
    rw [h]
    exact .single .attempt

/-- A client that opens a connection takes it. -/
theorem proceeds_takeConnection {client : Client} (h : client.state = .connecting) :
    Proceeds client client.takeConnection := by
  rw [takeConnection_of_connecting h]
  refine ⟨⟨?_, List.append_nil _⟩, rfl⟩
  rw [h]
  exact .single .success

/-- A connected client starts to close the connection. -/
theorem proceeds_beginClose {client : Client} (h : client.state = .connected)
    (reason : StreamEnd) : Proceeds client (client.beginClose reason) :=
  Proceeds.cons (.stay rfl rfl h) rfl rfl

/-- A client that has closed its connection stops, starts an attempt, or waits. -/
theorem proceeds_afterClose (client : Client) (reason : StreamEnd) :
    Proceeds client (client.afterClose reason) := by
  have hwait : Proceeds { client with state := .disconnected }
      ({ client with state := .disconnected, phase := .waiting 0 }, []) := .stay rfl rfl rfl
  rw [afterClose, publish_eq]
  cases reason with
  | cancelled => exact ((proceeds_stop _).cons rfl rfl).disconnected
  | forced => exact ((proceeds_beginAttempt rfl).cons rfl rfl).disconnected
  | closed => exact (hwait.cons rfl rfl).disconnected
  | failed error => exact (hwait.cons rfl rfl).disconnected

/-- A connected client that reads a frame stays connected. -/
theorem proceeds_takeFrame {client : Client} (h : client.phase = .reading)
    (hsettled : client.state = client.phase.state) (text : String) :
    Proceeds client (client.takeFrame text) := by
  have hstay : Proceeds client (client, []) := .stay rfl rfl hsettled
  rw [takeFrame]
  split
  · next report _ =>
      have hconsume : Proceeds client ({ client with phase := .consuming report.id }, []) :=
        .stay rfl rfl (by rw [hsettled, h]; rfl)
      exact (hconsume.cons rfl rfl).cons rfl rfl
  · exact (hstay.cons rfl rfl).cons rfl rfl
  · exact (hstay.cons rfl rfl).cons rfl rfl

/-- What comes of a move does not depend on what the client remembers of requests. -/
theorem Proceeds.of_requested {client : Client} {moved : Client × List ClientEvent}
    (h : Proceeds { client with requested := false } moved) : Proceeds client moved :=
  ⟨⟨h.course.path, h.course.attempts⟩, h.settled⟩

/-- Time that passes leaves a client in its state. -/
theorem proceeds_elapse {client : Client} (hsettled : client.state = client.phase.state)
    (millis : Nat) : Proceeds client (client.elapse millis, []) := by
  simp only [elapse]
  split
  · next elapsed hphase =>
      have hwaiting : client.state = (Phase.waiting elapsed).state := hphase ▸ hsettled
      exact .stay rfl rfl hwaiting
  · exact .stay rfl rfl hsettled

/-- **Every move of a client is a course of it to a phase in which it is in its state.** -/
theorem proceeds_step {client : Client} (hsettled : client.state = client.phase.state)
    (move : ClientMove) : Proceeds client (client.step move) := by
  -- a client in a phase is in the state of the phase
  have hin {phase : Phase} (hphase : client.phase = phase) : client.state = phase.state :=
    hphase ▸ hsettled
  have hreading (hreads : client.readsNext = true) : client.phase = .reading :=
    (client.readsNext_iff.mp hreads).1
  have htakes := takes_step client move
  generalize client.step move = moved at htakes
  cases htakes with
  | nothing | request | cancel => exact .stay rfl rfl hsettled
  | start hphase | wake hphase => exact proceeds_beginAttempt (hin hphase)
  | opened hphase => exact proceeds_takeConnection (hin hphase)
  | refused => exact proceeds_takeRefusal client _
  | frame hreads => exact proceeds_takeFrame (hreading hreads) hsettled _
  | peerClosed hreads | readFailed hreads =>
      exact proceeds_beginClose (hin (hreading hreads)) _
  | consumed hphase =>
      have hconnected := hin hphase
      exact .stay rfl rfl hconnected
  | panicked hphase =>
      have hconnected := hin hphase
      have hread : Proceeds client ({ client with phase := .reading }, []) :=
        .stay rfl rfl hconnected
      exact hread.cons rfl rfl
  | closed => exact proceeds_afterClose client _
  | elapse => exact proceeds_elapse hsettled _
  | obeyReading hphase =>
      have hclose := @proceeds_beginClose { client with requested := false } (hin hphase) .forced
      exact hclose.of_requested
  | obeyWaiting hphase =>
      have hbegin := @proceeds_beginAttempt { client with requested := false } (hin hphase)
      exact hbegin.of_requested.cons rfl rfl
  | quitReading hphase => exact proceeds_beginClose (hin hphase) _
  | quitOpening | quitWaiting => exact proceeds_stop client

/-! ## Runs -/

/-- Moves are a course of a client to a phase in which it is in its state. -/
theorem proceeds_run {client : Client} (hsettled : client.state = client.phase.state)
    (moves : List ClientMove) :
    Proceeds client ((client.run moves).1, events client moves) := by
  induction moves generalizing client with
  | nil => exact .stay rfl rfl hsettled
  | cons move moves ih =>
      have hstep := proceeds_step hsettled move
      have hlater := ih hstep.settled
      rw [events_cons]
      exact ⟨hstep.course.trans hlater.course, hlater.settled⟩

/-- **The states that a client publishes are a chain of attempts, successes, failures and endings.**
It begins with an attempt and has no state twice in a row, and the client is in the state that it
has published last.  Every attempt to open a connection comes after one announcement of its own,
and a client that has stopped has no connection. -/
theorem changes_of_run (delay : Nat) (moves : List ClientMove) :
    let client := ((ofDelay delay).run moves).1
    let seen := events (ofDelay delay) moves
    List.IsChain ClientState.Leads (.disconnected :: changes seen)
      ∧ (∀ state ∈ (changes seen).head?, state = .connecting)
      ∧ (changes seen).IsChain (· ≠ ·)
      ∧ client.state = (changes seen).getLastD .disconnected
      ∧ seeking seen = attempts client.attempt
      ∧ (client.phase = .stopped → client.state = .disconnected) := by
  intro client seen
  have hrun : Proceeds (ofDelay delay) (client, seen) := proceeds_run rfl moves
  have hpath : ClientState.Path .disconnected (changes seen) client.state := hrun.course.path
  have hattempts : attempts 0 ++ seeking seen = attempts client.attempt := hrun.course.attempts
  refine ⟨hpath.isChain, ?_, ?_, hpath.getLastD_eq.symm, hattempts, ?_⟩
  · intro state hstate
    exact ((List.isChain_cons.mp hpath.isChain).1 state hstate).eq_connecting
  · exact (List.isChain_cons.mp hpath.isChain).2.imp fun _ _ => ClientState.Leads.ne
  · intro hstopped
    have hsettled : client.state = client.phase.state := hrun.settled
    rw [hsettled, hstopped, Phase.state]

-- a request during the delay, and one that tears the connection down
example : changes (events (ofDelay 5) [.start, .refused (.connect ""), .request, .obey, .opened,
    .request, .obey, .closed]) = [.connecting, .disconnected, .connecting, .connected,
      .disconnected, .connecting] := rfl

end Client

end ReportRelay
