/-
# Cancelled clients

A client that has been cancelled may still finish what it is about: take the connection that an
attempt has brought, end the work on a report, close its connection.  But it starts no attempt and
reads no frame, in whatever phase the cancellation has met it and whatever has been asked of it
before (`calm_events`).
-/
import ReportRelay.Proofs.Client.States

namespace ReportRelay

namespace Client

/-! ## Calm events -/

/-- Events in which no attempt starts and no frame is read. -/
def Calm (events : List ClientEvent) : Prop :=
  ∀ event ∈ events, event.isSeeking = false ∧ event.read? = none

theorem calm_nil : Calm [] := fun _ h => by cases h

theorem Calm.append {events later : List ClientEvent} (h : Calm events) (hlater : Calm later) :
    Calm (events ++ later) :=
  fun event hevent => (List.mem_append.mp hevent).elim (h event) (hlater event)

theorem Calm.cons {event : ClientEvent} {events : List ClientEvent}
    (hseeking : event.isSeeking = false) (hread : event.read? = none) (h : Calm events) :
    Calm (event :: events) := by
  intro other hother
  rcases List.mem_cons.mp hother with rfl | hother
  · exact ⟨hseeking, hread⟩
  · exact h other hother

/-- It is calm when a client publishes anything but an attempt. -/
theorem calm_publish {client : Client} {state : ClientState} (h : state ≠ .connecting) :
    Calm (client.publish state).2 := by
  intro event hevent
  rw [eq_changed_of_mem_publish hevent]
  cases state with
  | connecting => exact absurd rfl h
  | _ => exact ⟨rfl, rfl⟩

/-! ## Moves -/

/-- What comes of a move of a cancelled client: it stays cancelled, and it is calm. -/
structure StaysCalm (moved : Client × List ClientEvent) : Prop where
  cancelled : moved.1.cancelled = true
  calm : Calm moved.2

/-- Other events may come before. -/
theorem StaysCalm.cons {after : Client} {event : ClientEvent} {events : List ClientEvent}
    (h : StaysCalm (after, events)) (hseeking : event.isSeeking = false)
    (hread : event.read? = none) : StaysCalm (after, event :: events) :=
  ⟨h.cancelled, .cons hseeking hread h.calm⟩

/-- A cancelled client stays calm when it publishes anything but an attempt, and what follows is
calm. -/
theorem StaysCalm.publish {client after : Client} {events : List ClientEvent}
    {state : ClientState} (h : StaysCalm (after, events)) (hstate : state ≠ .connecting) :
    StaysCalm (after, (client.publish state).2 ++ events) :=
  ⟨h.cancelled, (calm_publish hstate).append h.calm⟩

variable {client : Client}

/-- A cancelled client that nothing is seen of stays calm. -/
theorem staysCalm_nil (h : client.cancelled = true) : StaysCalm (client, []) := ⟨h, calm_nil⟩

theorem staysCalm_stop (h : client.cancelled = true) : StaysCalm client.stop := by
  have hstopped : StaysCalm ({ client with state := .disconnected, phase := .stopped }, []) :=
    ⟨h, calm_nil⟩
  rw [stop, publish_eq]
  exact (hstopped.cons rfl rfl).publish (by decide)

/-- A cancelled client that comes to make an attempt stops. -/
theorem staysCalm_beginAttempt (h : client.cancelled = true) : StaysCalm client.beginAttempt := by
  rw [beginAttempt, if_pos h]
  exact staysCalm_stop h

theorem staysCalm_takeConnection (h : client.cancelled = true) :
    StaysCalm client.takeConnection := by
  have hread : StaysCalm
      ({ client with requested := false, phase := .reading, state := .connected }, []) :=
    ⟨h, calm_nil⟩
  rw [takeConnection, publish_eq]
  exact (hread.cons rfl rfl).publish (by decide)

theorem staysCalm_takeRefusal (h : client.cancelled = true) (error : ClientError) :
    StaysCalm (client.takeRefusal error) := by
  have hwait : StaysCalm ({ client with phase := .waiting 0, state := .disconnected }, []) :=
    ⟨h, calm_nil⟩
  rw [takeRefusal, publish_eq]
  exact (hwait.cons rfl rfl).publish (by decide)

theorem staysCalm_beginClose (h : client.cancelled = true) (reason : StreamEnd) :
    StaysCalm (client.beginClose reason) :=
  ⟨h, .cons rfl rfl calm_nil⟩

/-- A cancelled client that has closed its connection makes no attempt, even on a request. -/
theorem staysCalm_afterClose (h : client.cancelled = true) (reason : StreamEnd) :
    StaysCalm (client.afterClose reason) := by
  have hstate : ({ client with state := .disconnected } : Client).cancelled = true := h
  rw [afterClose, publish_eq]
  cases reason with
  | cancelled => exact ((staysCalm_stop hstate).cons rfl rfl).publish (by decide)
  | forced => exact ((staysCalm_beginAttempt hstate).cons rfl rfl).publish (by decide)
  | closed => exact ⟨h, (calm_publish (by decide)).append (.cons rfl rfl calm_nil)⟩
  | failed error => exact ⟨h, (calm_publish (by decide)).append (.cons rfl rfl calm_nil)⟩

theorem staysCalm_elapse (h : client.cancelled = true) (millis : Nat) :
    StaysCalm (client.elapse millis, []) := by
  simp only [elapse]
  split
  · exact ⟨h, calm_nil⟩
  · exact ⟨h, calm_nil⟩

/-- **A cancelled client stays calm in every move.** -/
theorem staysCalm_step (h : client.cancelled = true) (move : ClientMove) :
    StaysCalm (client.step move) := by
  have hreads (hready : client.readsNext = true) : False := by
    have hnot := ((client.readsNext_iff.mp hready).2).1
    rw [h] at hnot
    cases hnot
  have hforget : ({ client with requested := false } : Client).cancelled = true := h
  have htakes := takes_step client move
  generalize client.step move = moved at htakes
  cases htakes with
  | nothing => exact staysCalm_nil h
  | request => exact ⟨h, calm_nil⟩
  | cancel => exact ⟨rfl, calm_nil⟩
  | consumed => exact ⟨h, calm_nil⟩
  | panicked => exact ⟨h, .cons rfl rfl calm_nil⟩
  | start | wake => exact staysCalm_beginAttempt h
  | opened => exact staysCalm_takeConnection h
  | refused => exact staysCalm_takeRefusal h _
  | frame hready | peerClosed hready | readFailed hready => exact (hreads hready).elim
  | closed => exact staysCalm_afterClose h _
  | elapse => exact staysCalm_elapse h _
  | obeyReading => exact staysCalm_beginClose hforget _
  | obeyWaiting => exact (staysCalm_beginAttempt hforget).cons rfl rfl
  | quitReading => exact staysCalm_beginClose h _
  | quitOpening | quitWaiting => exact staysCalm_stop h

/-- It stays calm in all moves after a cancellation. -/
theorem calm_events (h : client.cancelled = true) (moves : List ClientMove) :
    Calm (events client moves) := by
  induction moves generalizing client with
  | nil => exact calm_nil
  | cons move moves ih =>
      have hstep := staysCalm_step h move
      rw [events_cons]
      exact hstep.calm.append (ih hstep.cancelled)

end Client

end ReportRelay
