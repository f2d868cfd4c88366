/-
# What a client takes of a move

A move of a client does one thing if the client is in the phase for it, and nothing otherwise.
`Client.Takes` lists what there is to do, each with what must hold of the client before it, so
that a property of all moves is shown thing by thing.
-/
import ReportRelay.Client.Machine

namespace ReportRelay.Client

/-- Publishing a state changes nothing else. -/
theorem publish_fst (client : Client) (state : ClientState) :
    (client.publish state).1 = { client with state := state } := by
  unfold publish
  split
  · next h => rw [← h]
  · rfl

@[simp] theorem publish_phase (client : Client) (state : ClientState) :
    (client.publish state).1.phase = client.phase := by
  rw [publish_fst]

/-- Publishing sets the state, whatever is seen of it. -/
theorem publish_eq (client : Client) (state : ClientState) :
    client.publish state = ({ client with state := state }, (client.publish state).2) :=
  Prod.ext (publish_fst client state) rfl

/-- Publishing another state shows the change. -/
theorem publish_of_ne {client : Client} {state : ClientState} (h : client.state ≠ state) :
    client.publish state = ({ client with state := state }, [.changed state]) := by
  rw [publish, if_neg h]

/-- What is seen when a state is published is the change to it. -/
theorem eq_changed_of_mem_publish {client : Client} {state : ClientState} {event : ClientEvent}
    (h : event ∈ (client.publish state).2) : event = .changed state := by
  unfold publish at h
  split at h
  · cases h
  · exact List.mem_singleton.mp h

/-- What is seen of a client that stops is that, after the end of what it was about. -/
theorem eq_of_mem_stop {client : Client} {event : ClientEvent} (h : event ∈ client.stop.2) :
    event = .changed .disconnected ∨ event = .stopped := by
  rcases List.mem_append.mp h with hchanged | hstopped
  · exact Or.inl (eq_changed_of_mem_publish hchanged)
  · exact Or.inr (List.mem_singleton.mp hstopped)

/-- A client without a connection that is not cancelled starts its next attempt. -/
theorem beginAttempt_of_disconnected {client : Client} (h : client.state = .disconnected)
    (hcancelled : ¬client.cancelled = true) : client.beginAttempt
      = ({ client with
            requested := false, attempt := client.attempt + 1, phase := .opening,
            state := .connecting },
        [.changed .connecting, .attempted (client.attempt + 1)]) := by
  simp [beginAttempt, hcancelled, publish, h]

/-- A client that takes the connection that it was opening is connected. -/
theorem takeConnection_of_connecting {client : Client} (h : client.state = .connecting) :
    client.takeConnection
      = ({ client with requested := false, phase := .reading, state := .connected },
        [.changed .connected, .opened client.attempt]) := by
  simp [takeConnection, publish, h]

/-- The client when it begins to wait for its next attempt. -/
def pausing (client : Client) : Client :=
  { client with phase := .waiting 0, state := .disconnected }

/-- A client whose attempt has failed waits without a connection. -/
theorem takeRefusal_of_connecting {client : Client} (h : client.state = .connecting)
    (error : ClientError) : client.takeRefusal error
      = (client.pausing, [.changed .disconnected, .refused client.attempt error]) := by
  simp [takeRefusal, publish, pausing, h]

/-- A client that gives up its attempt stops without a connection. -/
theorem stop_of_connecting {client : Client} (h : client.state = .connecting) :
    client.stop
      = ({ client with phase := .stopped, state := .disconnected },
        [.changed .disconnected, .stopped]) := by
  simp [stop, publish, h]

/-- A client without a connection stops. -/
theorem stop_of_disconnected {client : Client} (h : client.state = .disconnected) :
    client.stop = ({ client with phase := .stopped }, [.stopped]) := by
  simp [stop, publish, h]

/-- A client that would take a frame is reading, and neither a request nor a cancellation comes
first. -/
theorem readsNext_iff (client : Client) : client.readsNext = true ↔
    client.phase = .reading ∧ client.cancelled = false ∧ client.requested = false := by
  simp [readsNext, and_assoc]

/-- What can be seen of moves is what can be seen of the first, and of the others after it. -/
theorem run_cons (client : Client) (move : ClientMove) (moves : List ClientMove) :
    client.run (move :: moves)
      = (((client.step move).1.run moves).1,
        (client.step move).2.map (fun event => (client.clock, event))
          ++ ((client.step move).1.run moves).2) := rfl

/-- Moves may be made in two runs. -/
theorem run_append (client : Client) (moves later : List ClientMove) :
    client.run (moves ++ later)
      = (((client.run moves).1.run later).1,
        (client.run moves).2 ++ ((client.run moves).1.run later).2) := by
  induction moves generalizing client with
  | nil => rfl
  | cons move moves ih => rw [List.cons_append, run_cons, run_cons, ih, List.append_assoc]

/-- What a client takes of a move, and what comes of it. -/
inductive Takes (client : Client) : ClientMove → Client × List ClientEvent → Prop
  /-- The client takes nothing of a move that is not for its phase. -/
  | nothing {move : ClientMove} : Takes client move (client, [])
  /-- It starts with its first attempt. -/
  | start (hphase : client.phase = .idle) : Takes client .start client.beginAttempt
  /-- It remembers a request. -/
  | request : Takes client .request ({ client with requested := true }, [])
  /-- It is cancelled. -/
  | cancel : Takes client .cancel ({ client with cancelled := true }, [])
  /-- It takes the connection that has been opened. -/
  | opened (hphase : client.phase = .opening) : Takes client .opened client.takeConnection
  /-- It takes note of a failed attempt. -/
  | refused {error : ClientError} (hphase : client.phase = .opening) :
      Takes client (.refused error) (client.takeRefusal error)
  /-- It reads a frame. -/
  | frame {text : String} (hreads : client.readsNext = true) :
      Takes client (.frame text) (client.takeFrame text)
  /-- It finds the connection closed. -/
  | peerClosed (hreads : client.readsNext = true) :
      Takes client .peerClosed (client.beginClose .closed)
  /-- It finds the connection failed. -/
  | readFailed {error : ClientError} (hreads : client.readsNext = true) :
      Takes client (.readFailed error) (client.beginClose (.failed error))
  /-- It goes on when the consumer is done. -/
  | consumed {id : String} (hphase : client.phase = .consuming id) :
      Takes client .consumed ({ client with phase := .reading }, [])
  /-- It goes on when the consumer has panicked. -/
  | panicked {id : String} {info : Option String} (hphase : client.phase = .consuming id) :
      Takes client (.panicked info) ({ client with phase := .reading }, [.panicked id info])
  /-- It goes on when the connection is closed. -/
  | closed {reason : StreamEnd} (hphase : client.phase = .closing reason) :
      Takes client .closed (client.afterClose reason)
  /-- It lets time pass. -/
  | elapse {millis : Nat} (hmillis : client.canElapse millis = true) :
      Takes client (.elapse millis) (client.elapse millis, [])
  /-- It makes an attempt at the end of the delay. -/
  | wake {elapsed : Nat} (hphase : client.phase = .waiting elapsed)
      (hdelay : client.delay ≤ elapsed) : Takes client .wake client.beginAttempt
  /-- It tears the connection down on a request. -/
  | obeyReading (hphase : client.phase = .reading) (hrequested : client.requested = true)
      (hcancelled : client.cancelled = false) :
      Takes client .obey (beginClose { client with requested := false } .forced)
  /-- It makes an attempt on a request during the delay. -/
  | obeyWaiting {elapsed : Nat} (hphase : client.phase = .waiting elapsed)
      (hrequested : client.requested = true) :
      Takes client .obey ((beginAttempt { client with requested := false }).1,
        .hurried :: (beginAttempt { client with requested := false }).2)
  /-- It gives up an attempt on its cancellation. -/
  | quitOpening (hphase : client.phase = .opening) (hcancelled : client.cancelled = true) :
      Takes client .quit client.stop
  /-- It closes the connection on its cancellation. -/
  | quitReading (hphase : client.phase = .reading) (hcancelled : client.cancelled = true) :
      Takes client .quit (client.beginClose .cancelled)
  /-- It gives up the delay on its cancellation. -/
  | quitWaiting {elapsed : Nat} (hphase : client.phase = .waiting elapsed)
      (hcancelled : client.cancelled = true) : Takes client .quit client.stop

/-- What a client does with a request is to close its connection, or to make an attempt. -/
theorem takes_obey (client : Client) : Takes client .obey client.obey := by
  unfold obey
  split
  · next hphase =>
      split
      · next hready =>
          simp only [Bool.and_eq_true, Bool.not_eq_true'] at hready
          exact .obeyReading hphase hready.1 hready.2
      · exact .nothing
  · next hphase =>
      split
      · next hrequested => exact .obeyWaiting hphase hrequested
      · exact .nothing
  · exact .nothing

/-- What a client does on its cancellation is to give up what it does. -/
theorem takes_quit (client : Client) : Takes client .quit client.quit := by
  unfold quit
  split
  · exact .nothing
  · next hcancelled =>
      have hcancelled : client.cancelled = true := by simpa using hcancelled
      split
      · next hphase => exact .quitOpening hphase hcancelled
      · next hphase => exact .quitReading hphase hcancelled
      · next hphase => exact .quitWaiting hphase hcancelled
      · exact .nothing

/-- A client does a thing if it is ready for it, and nothing otherwise. -/
theorem takes_ite {client : Client} {move : ClientMove} {moved : Client × List ClientEvent}
    {ready : Prop} [Decidable ready] (h : ready → Takes client move moved) :
    Takes client move (if ready then moved else (client, [])) := by
  split
  · next hready => exact h hready
  · exact .nothing

/-- **A move does what a client takes of it.** -/
theorem takes_step (client : Client) (move : ClientMove) :
    Takes client move (client.step move) := by
  cases move with
  | request => exact .request
  | cancel => exact .cancel
  | obey => exact takes_obey client
  | quit => exact takes_quit client
  | start => exact takes_ite .start
  | opened => exact takes_ite .opened
  | refused error => exact takes_ite .refused
  | frame text => exact takes_ite .frame
  | peerClosed => exact takes_ite .peerClosed
  | readFailed error => exact takes_ite .readFailed
  | elapse millis => exact takes_ite .elapse
  | consumed =>
      rw [step]
      split
      · next hphase => exact .consumed hphase
      · exact .nothing
  | panicked info =>
      rw [step]
      split
      · next hphase => exact .panicked hphase
      · exact .nothing
  | closed =>
      rw [step]
      split
      · next hphase => exact .closed hphase
      · exact .nothing
  | wake =>
      rw [step]
      split
      · next hphase => exact takes_ite (.wake hphase)
      · exact .nothing

/-! ## The delay -/

@[simp] theorem publish_delay (client : Client) (state : ClientState) :
    (client.publish state).1.delay = client.delay := by
  rw [publish_fst]

@[simp] theorem stop_delay (client : Client) : client.stop.1.delay = client.delay := by
  simp [stop]

@[simp] theorem beginAttempt_delay (client : Client) :
    client.beginAttempt.1.delay = client.delay := by
  unfold beginAttempt
  split <;> simp

@[simp] theorem afterClose_delay (client : Client) (reason : StreamEnd) :
    (client.afterClose reason).1.delay = client.delay := by
  cases reason <;> simp [afterClose]

/-- No move changes the delay. -/
theorem step_delay (client : Client) (move : ClientMove) :
    (client.step move).1.delay = client.delay := by
  have htakes := takes_step client move
  generalize client.step move = moved at htakes
  cases htakes with
  | nothing | request | cancel | consumed | panicked => rfl
  | peerClosed | readFailed | obeyReading | quitReading => rfl
  | start | wake | obeyWaiting => exact beginAttempt_delay _
  | opened => simp [takeConnection]
  | refused => simp [takeRefusal]
  | frame =>
      rw [takeFrame]
      split <;> rfl
  | closed => exact afterClose_delay client _
  | elapse =>
      rw [elapse]
      split <;> rfl
  | quitOpening | quitWaiting => exact stop_delay client

/-- No run changes the delay. -/
theorem run_delay (client : Client) (moves : List ClientMove) :
    (client.run moves).1.delay = client.delay := by
  induction moves generalizing client with
  | nil => rfl
  | cons move moves ih => rw [run_cons, ih, step_delay]

section Waiting

variable {client : Client} {elapsed : Nat}

/-- Time that passes is part of the delay. -/
theorem elapse_of_waiting (hphase : client.phase = .waiting elapsed) (millis : Nat) :
    client.elapse millis
      = { client with clock := client.clock + millis, phase := .waiting (elapsed + millis) } := by
  simp only [elapse, hphase]

/-- What is seen when a client starts its next attempt at some time. -/
def nextAttempt (client : Client) (time : Nat) : List (Nat × ClientEvent) :=
  [(time, .changed .connecting), (time, .attempted (client.attempt + 1))]

/-- A client that waits starts its next attempt at the end of the delay, if nobody calls upon
it. -/
theorem run_elapse_wake (hphase : client.phase = .waiting elapsed)
    (hstate : client.state = .disconnected) (hcancelled : client.cancelled = false)
    (hrequested : client.requested = false) (hdelay : elapsed ≤ client.delay) :
    (client.run [.elapse (client.delay - elapsed), .wake]).2
      = client.nextAttempt (client.clock + (client.delay - elapsed)) := by
  have hend : elapsed + (client.delay - elapsed) = client.delay := Nat.add_sub_of_le hdelay
  simp [run, step, canElapse, elapse, beginAttempt, publish, nextAttempt, hphase, hstate,
    hcancelled, hrequested, hend]

/-- It does not start it before. -/
theorem run_elapse_early (hphase : client.phase = .waiting elapsed)
    (hcancelled : client.cancelled = false) (hrequested : client.requested = false) {millis : Nat}
    (hmillis : elapsed + millis < client.delay) :
    (client.run [.elapse millis, .wake, .obey]).2 = [] := by
  have hcan : elapsed + millis ≤ client.delay := Nat.le_of_lt hmillis
  have hwake : ¬client.delay ≤ elapsed + millis := Nat.not_le.mpr hmillis
  simp [run, step, canElapse, elapse, obey, hphase, hcancelled, hrequested, hcan, hwake]

/-- A client that remembers a request does not wait. -/
theorem canElapse_of_requested (hphase : client.phase = .waiting elapsed)
    (hrequested : client.requested = true) (millis : Nat) : client.canElapse millis = false := by
  simp [canElapse, hphase, hrequested]

/-- It starts its next attempt at once. -/
theorem run_obey (hphase : client.phase = .waiting elapsed) (hstate : client.state = .disconnected)
    (hcancelled : client.cancelled = false) (hrequested : client.requested = true) :
    (client.run [.obey]).2
      = (client.clock, .hurried) :: client.nextAttempt client.clock := by
  simp [run, step, obey, beginAttempt, publish, nextAttempt, hphase, hstate, hcancelled, hrequested]

end Waiting

end ReportRelay.Client
