/-
# Every script of connections has a run

Whatever frames the connections of a client are to bring, there is a run of the client in which
it opens so many connections and reads exactly those frames from them (`exists_sessions`).  So
nothing that is said of such runs is said of none.
-/
import ReportRelay.Proofs.Client.Sessions

namespace ReportRelay

namespace Client

/-! ## Silent moves -/

/-- Events of which none is about a frame or the opening of a connection. -/
def Silent (events : List ClientEvent) : Prop :=
  Quiet events ∧ events.any ClientEvent.isOpened = false

theorem Silent.append {events later : List ClientEvent} (h : Silent events)
    (hlater : Silent later) : Silent (events ++ later) := by
  refine ⟨h.1.append hlater.1, ?_⟩
  rw [List.any_append, h.2, hlater.2]
  rfl

/-- Silent events are nothing to the sessions. -/
theorem Silent.sessions_append {events : List ClientEvent} (h : Silent events)
    (later : List ClientEvent) : sessions (events ++ later) = sessions later := by
  obtain ⟨hquiet, hopened⟩ := h
  induction events with
  | nil => rfl
  | cons event events ih =>
      rw [List.any_cons, Bool.or_eq_false_iff] at hopened
      have hrest := ih
        (fun other hother => hquiet other (List.mem_cons_of_mem _ hother)) hopened.2
      have hread := (hquiet event List.mem_cons_self).1
      cases event with
      | opened attempt => cases hopened.1
      | read text => cases hread
      | _ => simpa [sessions] using hrest

/-- Publishing a state is silent. -/
theorem publish_silent (client : Client) (state : ClientState) :
    Silent (client.publish state).2 := by
  refine ⟨publish_quiet client state, ?_⟩
  unfold publish
  split <;> rfl

/-! ## A client that nobody calls upon -/

/-- A client in a phase that is neither asked to reconnect nor cancelled. -/
structure Undisturbed (delay : Nat) (phase : Phase) (client : Client) : Prop where
  delay_eq : client.delay = delay
  phase_eq : client.phase = phase
  not_requested : client.requested = false
  not_cancelled : client.cancelled = false

variable {delay : Nat} {client : Client}

/-- The delay passes. -/
theorem Undisturbed.elapse (h : Undisturbed delay (.waiting 0) client) :
    Undisturbed delay (.waiting delay) (client.step (.elapse delay)).1 ∧
      Silent (client.step (.elapse delay)).2 := by
  obtain ⟨delay', phase, state, attempt, requested, cancelled, clock⟩ := client
  obtain ⟨rfl, rfl, rfl, rfl⟩ := h
  have hstep : step ⟨delay', .waiting 0, state, attempt, false, false, clock⟩ (.elapse delay')
      = (⟨delay', .waiting delay', state, attempt, false, false, clock + delay'⟩, []) := by
    simp [step, canElapse, Client.elapse]
  rw [hstep]
  exact ⟨⟨rfl, rfl, rfl, rfl⟩, quiet_nil, rfl⟩

/-- At the end of the delay an attempt starts. -/
theorem Undisturbed.wake (h : Undisturbed delay (.waiting delay) client) :
    Undisturbed delay .opening (client.step .wake).1 ∧ Silent (client.step .wake).2 := by
  have hstep : client.step .wake = client.beginAttempt := by
    simp only [step, h.phase_eq, h.delay_eq, Nat.le_refl, if_true]
  rw [hstep, beginAttempt, if_neg (by rw [h.not_cancelled]; exact Bool.false_ne_true)]
  constructor
  · constructor <;> simp [publish_fst, h.delay_eq, h.not_cancelled]
  · exact (publish_silent _ _).append ⟨quiet_nil.cons rfl rfl, rfl⟩

/-- The attempt brings a connection. -/
theorem Undisturbed.opened (h : Undisturbed delay .opening client) :
    Undisturbed delay .reading (client.step .opened).1 ∧
      ∀ later, sessions ((client.step .opened).2 ++ later)
        = ([], (sessions later).1 :: (sessions later).2) := by
  have hstep : client.step .opened = client.takeConnection := by
    simp only [step, h.phase_eq, if_true]
  rw [hstep, takeConnection]
  constructor
  · constructor <;> simp [publish_fst, h.delay_eq, h.not_cancelled]
  · intro later
    rw [List.append_assoc, (publish_silent _ _).sessions_append]
    rfl

/-- A frame is read, and its report consumed if it holds one. -/
theorem Undisturbed.read (h : Undisturbed delay .reading client) (text : String) :
    Undisturbed delay .reading (client.run [.frame text, .consumed]).1 ∧
      ∀ later, sessions (events client [.frame text, .consumed] ++ later)
        = (text :: (sessions later).1, (sessions later).2) := by
  have hreads : client.readsNext = true := by
    simp [readsNext, h.phase_eq, h.not_requested, h.not_cancelled]
  have hstep : client.step (.frame text) = client.takeFrame text := by
    rw [step, if_pos hreads]
  cases hreport : frameReport? text with
  | none =>
      have hconsumed : client.step .consumed = (client, []) := by
        simp only [step, h.phase_eq]
      constructor
      · simpa only [run, hstep, takeFrame_of_none client hreport, hconsumed] using h
      · intro later
        rw [events_cons, events_cons, hstep, takeFrame_of_none client hreport, hconsumed]
        rcases frameOutcome_of_none hreport with houtcome | ⟨error, houtcome⟩ <;> rw [houtcome] <;>
          rfl
  | some report =>
      have hconsumed : step { client with phase := .consuming report.id } .consumed
          = ({ client with phase := .reading }, []) := rfl
      constructor
      · simp only [run, hstep, takeFrame_of_some client hreport, hconsumed]
        exact ⟨h.delay_eq, rfl, h.not_requested, h.not_cancelled⟩
      · intro later
        rw [events_cons, events_cons, hstep, takeFrame_of_some client hreport, hconsumed,
          frameOutcome_of_some hreport]
        rfl

/-- The peer closes the connection, and the client waits for the next attempt. -/
theorem Undisturbed.close (h : Undisturbed delay .reading client) :
    Undisturbed delay (.waiting 0) (client.run [.peerClosed, .closed]).1 ∧
      Silent (events client [.peerClosed, .closed]) := by
  have hreads : client.readsNext = true := by
    simp [readsNext, h.phase_eq, h.not_requested, h.not_cancelled]
  have hstep : client.step .peerClosed = client.beginClose .closed := by
    rw [step, if_pos hreads]
  have hclosed : (client.beginClose .closed).1.step .closed
      = (client.beginClose .closed).1.afterClose .closed := rfl
  constructor
  · have hrun : (client.run [.peerClosed, .closed]).1
        = ((client.beginClose .closed).1.afterClose .closed).1 := by
      simp only [run, hstep]
      rfl
    rw [hrun]
    simp only [afterClose, publish_fst]
    exact ⟨h.delay_eq, rfl, h.not_requested, h.not_cancelled⟩
  · rw [events_cons, events_cons, hstep, hclosed]
    have hlost : Silent [ClientEvent.lost .closed] := ⟨quiet_nil.cons rfl rfl, rfl⟩
    have hclosing : Silent (client.beginClose .closed).2 := ⟨beginClose_quiet client _, rfl⟩
    exact hclosing.append (((publish_silent _ _).append hlost).append ⟨quiet_nil, rfl⟩)

/-! ## Runs of scripts -/

/-- Moves of a client may be made in two runs. -/
theorem run_append_fst (client : Client) (moves later : List ClientMove) :
    (client.run (moves ++ later)).1 = ((client.run moves).1.run later).1 := by
  rw [run_append]

/-- What can be seen of two runs is what can be seen of each. -/
theorem events_append (client : Client) (moves later : List ClientMove) :
    events client (moves ++ later)
      = events client moves ++ events (client.run moves).1 later := by
  rw [events, run_append, List.map_append, events, events]

/-- The moves that read frames one after another. -/
def readMoves (frames : List String) : List ClientMove :=
  frames.flatMap fun text => [.frame text, .consumed]

/-- Frames are read one after another. -/
theorem Undisturbed.readAll (h : Undisturbed delay .reading client) (frames : List String) :
    Undisturbed delay .reading (client.run (readMoves frames)).1 ∧
      ∀ later, sessions (events client (readMoves frames) ++ later)
        = (frames ++ (sessions later).1, (sessions later).2) := by
  induction frames generalizing client with
  | nil => exact ⟨h, fun later => rfl⟩
  | cons text frames ih =>
      obtain ⟨hread, hone⟩ := h.read text
      obtain ⟨hlast, hall⟩ := ih hread
      rw [readMoves, List.flatMap_cons, ← readMoves]
      refine ⟨?_, fun later => ?_⟩
      · rw [run_append_fst]
        exact hlast
      · rw [events_append, List.append_assoc, hone, hall]
        rfl

/-- The moves that wait for a connection, read frames from it, and see it closed. -/
def sessionMoves (delay : Nat) (frames : List String) : List ClientMove :=
  .elapse delay :: .wake :: .opened :: (readMoves frames ++ [.peerClosed, .closed])

/-- A connection is waited for, read from, and closed. -/
theorem Undisturbed.session (h : Undisturbed delay (.waiting 0) client) (frames : List String) :
    Undisturbed delay (.waiting 0) (client.run (sessionMoves delay frames)).1 ∧
      ∀ later, (sessions later).1 = [] →
        sessions (events client (sessionMoves delay frames) ++ later)
          = ([], frames :: (sessions later).2) := by
  obtain ⟨hwaited, helapse⟩ := h.elapse
  obtain ⟨hopening, hwake⟩ := hwaited.wake
  obtain ⟨hreading, hopened⟩ := hopening.opened
  obtain ⟨hread, hframes⟩ := hreading.readAll frames
  obtain ⟨hwaiting, hclose⟩ := hread.close
  refine ⟨?_, fun later hlater => ?_⟩
  · rw [show sessionMoves delay frames
      = [.elapse delay, .wake, .opened] ++ (readMoves frames ++ [.peerClosed, .closed]) from rfl,
      run_append_fst, run_append_fst]
    exact hwaiting
  · rw [sessionMoves, events_cons, events_cons, events_cons, events_append, List.append_assoc,
      helapse.sessions_append, List.append_assoc, hwake.sessions_append, List.append_assoc,
      hopened, List.append_assoc, hframes, hclose.sessions_append, hlater, List.append_nil]

/-- Connections are opened and read one after another. -/
theorem Undisturbed.sessions_eq (h : Undisturbed delay (.waiting 0) client)
    (scripts : List (List String)) :
    sessions (events client (scripts.flatMap (sessionMoves delay))) = ([], scripts) := by
  induction scripts generalizing client with
  | nil => rfl
  | cons frames scripts ih =>
      obtain ⟨hwaiting, hsession⟩ := h.session frames
      have hlater := ih hwaiting
      rw [List.flatMap_cons, events_append, hsession _ (by rw [hlater]), hlater]

/-- **Every script of connections has a run.** -/
theorem exists_sessions (delay : Nat) (scripts : List (List String)) :
    ∃ moves, sessions (events (ofDelay delay) moves) = ([], scripts) := by
  -- a first attempt that fails brings the client to where it waits
  have hstart : Undisturbed delay (.waiting 0)
      ((ofDelay delay).run [.start, .refused (.connect "")]).1 := ⟨rfl, rfl, rfl, rfl⟩
  have hsilent : Silent (events (ofDelay delay) [.start, .refused (.connect "")]) := by
    refine ⟨?_, rfl⟩
    rw [events_cons, events_cons]
    exact (quiet_step _ fun _ heq => by cases heq).append
      ((quiet_step _ fun _ heq => by cases heq).append quiet_nil)
  refine ⟨[.start, .refused (.connect "")] ++ scripts.flatMap (sessionMoves delay), ?_⟩
  rw [events_append, hsilent.sessions_append]
  exact hstart.sessions_eq scripts

end Client

end ReportRelay
