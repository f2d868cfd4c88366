/-
# What a client reads in its connections

The frames that a client reads come in sessions, one for each connection that is opened.  Every
frame is read in the session of some connection, and the reports that are handed to the consumer
are those of the frames that were read, without the frames that hold none.
-/
import ReportRelay.Proofs.Client.Moves
import ReportRelay.Store

namespace ReportRelay

/-! ## Frames in events -/

/-- The frame that an event shows to be read. -/
def ClientEvent.read? : ClientEvent → Option String
  | .read text => some text
  | _ => none

/-- The report that an event shows to be handed to the consumer. -/
def ClientEvent.handed? : ClientEvent → Option GroupedReport
  | .handed report => some report
  | _ => none

/-- Tells whether an event is that a connection was opened. -/
def ClientEvent.isOpened : ClientEvent → Bool
  | .opened _ => true
  | _ => false

/-- The report that a frame holds, if it holds one that can be grouped. -/
def frameReport? (text : String) : Option GroupedReport :=
  match decodeFrame text with
  | .ok found => found
  | .error _ => none

/-- What becomes of a frame that has been read. -/
def frameOutcome (text : String) : ClientEvent :=
  match decodeFrame text with
  | .ok (some report) => .handed report
  | .ok none => .ignored
  | .error error => .dropped error

/-- The report of a frame that holds one is handed over. -/
theorem frameOutcome_of_some {text : String} {report : GroupedReport}
    (h : frameReport? text = some report) : frameOutcome text = .handed report := by
  unfold frameReport? at h
  unfold frameOutcome
  cases hdecode : decodeFrame text with
  | error error =>
      rw [hdecode] at h
      cases h
  | ok found =>
      rw [hdecode] at h
      obtain rfl : found = some report := h
      rfl

/-- A frame without a report is ignored or dropped. -/
theorem frameOutcome_of_none {text : String} (h : frameReport? text = none) :
    frameOutcome text = .ignored ∨ ∃ error, frameOutcome text = .dropped error := by
  unfold frameReport? at h
  unfold frameOutcome
  cases hdecode : decodeFrame text with
  | error error => exact Or.inr ⟨error, rfl⟩
  | ok found =>
      rw [hdecode] at h
      obtain rfl : found = none := h
      exact Or.inl rfl

namespace Client

/-- What can be seen of moves of a client. -/
def events (client : Client) (moves : List ClientMove) : List ClientEvent :=
  (client.run moves).2.map Prod.snd

/-- What can be seen of moves is what can be seen of each. -/
theorem events_cons (client : Client) (move : ClientMove) (moves : List ClientMove) :
    events client (move :: moves)
      = (client.step move).2 ++ events (client.step move).1 moves := by
  rw [events, run, List.map_append, List.map_map]
  rw [show (Prod.snd ∘ fun event => (client.clock, event)) = (id : ClientEvent → ClientEvent)
    from rfl, List.map_id, events]

/-- The frames that events show to be read. -/
def reads (events : List ClientEvent) : List String := events.filterMap ClientEvent.read?

/-- The reports that events show to be handed to the consumer. -/
def handedReports (events : List ClientEvent) : List GroupedReport :=
  events.filterMap ClientEvent.handed?

/-- The frames read before a connection was opened, and those read from each connection. -/
def sessions : List ClientEvent → List String × List (List String)
  | [] => ([], [])
  | .opened _ :: events => ([], (sessions events).1 :: (sessions events).2)
  | .read text :: events => (text :: (sessions events).1, (sessions events).2)
  | _ :: events => sessions events

/-- What a store holds when it has been the consumer of a client. -/
def storeOf (events : List ClientEvent) : Store := (handedReports events).foldl .add .empty

/-- Every frame that is read is read in its place. -/
theorem reads_eq_sessions (events : List ClientEvent) :
    reads events = (sessions events).1 ++ (sessions events).2.flatten := by
  induction events with
  | nil => rfl
  | cons event events ih =>
      cases event with
      | opened attempt => exact ih
      | read text => exact congrArg (text :: ·) ih
      | _ => exact ih

/-! ## Moves without frames -/

/-- Events of which none is about a frame. -/
def Quiet (events : List ClientEvent) : Prop :=
  ∀ event ∈ events, event.read? = none ∧ event.handed? = none

theorem quiet_nil : Quiet [] := fun _ h => by cases h

theorem Quiet.append {events later : List ClientEvent} (h : Quiet events) (hlater : Quiet later) :
    Quiet (events ++ later) :=
  fun event hevent => (List.mem_append.mp hevent).elim (h event) (hlater event)

theorem Quiet.cons {event : ClientEvent} {events : List ClientEvent} (hread : event.read? = none)
    (hhanded : event.handed? = none) (h : Quiet events) : Quiet (event :: events) := by
  intro other hother
  rcases List.mem_cons.mp hother with rfl | hother
  · exact ⟨hread, hhanded⟩
  · exact h other hother

theorem Quiet.reads_eq {events : List ClientEvent} (h : Quiet events) : reads events = [] :=
  List.filterMap_eq_nil_iff.mpr fun event hevent => (h event hevent).1

theorem Quiet.handed_eq {events : List ClientEvent} (h : Quiet events) :
    handedReports events = [] :=
  List.filterMap_eq_nil_iff.mpr fun event hevent => (h event hevent).2

/-- Tells whether a phase belongs to the session of a connection. -/
def inSession : Phase → Bool
  | .reading => true
  | .consuming _ => true
  | .closing _ => true
  | _ => false

/-- What happens outside of sessions: no frame is read, and a session begins only with the
opening of a connection. -/
structure Outside (moved : Client × List ClientEvent) : Prop where
  quiet : Quiet moved.2
  begins : inSession moved.1.phase = true → ∃ event ∈ moved.2, event.isOpened = true

theorem outside_stay {client : Client} (h : inSession client.phase = false) :
    Outside (client, []) :=
  ⟨quiet_nil, fun hin => absurd hin (by rw [h]; exact Bool.false_ne_true)⟩

theorem publish_quiet (client : Client) (state : ClientState) :
    Quiet (client.publish state).2 := by
  intro event hevent
  rw [eq_changed_of_mem_publish hevent]
  exact ⟨rfl, rfl⟩

theorem stop_outside (client : Client) : Outside client.stop :=
  ⟨(publish_quiet client _).append (quiet_nil.cons rfl rfl), fun h => by cases h⟩

theorem beginAttempt_outside (client : Client) : Outside client.beginAttempt := by
  unfold beginAttempt
  split
  · exact stop_outside client
  · refine ⟨(publish_quiet _ _).append (quiet_nil.cons rfl rfl), fun h => ?_⟩
    simp [inSession] at h

theorem takeConnection_outside (client : Client) : Outside client.takeConnection :=
  ⟨(publish_quiet _ _).append (quiet_nil.cons rfl rfl),
    fun _ => ⟨.opened _, List.mem_append_right _ List.mem_cons_self, rfl⟩⟩

theorem takeRefusal_outside (client : Client) (error : ClientError) :
    Outside (client.takeRefusal error) := by
  refine ⟨(publish_quiet _ _).append (quiet_nil.cons rfl rfl), fun h => ?_⟩
  simp [takeRefusal, inSession] at h

theorem beginClose_quiet (client : Client) (reason : StreamEnd) :
    Quiet (client.beginClose reason).2 :=
  quiet_nil.cons rfl rfl

theorem afterClose_quiet (client : Client) (reason : StreamEnd) :
    Quiet (client.afterClose reason).2 := by
  have hpublish := publish_quiet client .disconnected
  cases reason with
  | cancelled => exact hpublish.append ((stop_outside _).quiet.cons rfl rfl)
  | forced => exact hpublish.append ((beginAttempt_outside _).quiet.cons rfl rfl)
  | closed => exact hpublish.append (quiet_nil.cons rfl rfl)
  | failed error => exact hpublish.append (quiet_nil.cons rfl rfl)

/-- Only a move that reads a frame is about one. -/
theorem quiet_step (client : Client) {move : ClientMove} (hmove : ∀ text, move ≠ .frame text) :
    Quiet (client.step move).2 := by
  have htakes := takes_step client move
  generalize client.step move = moved at htakes
  cases htakes with
  | nothing | request | cancel | consumed | elapse => exact quiet_nil
  | frame => exact absurd rfl (hmove _)
  | start | wake => exact (beginAttempt_outside client).quiet
  | opened => exact (takeConnection_outside client).quiet
  | refused => exact (takeRefusal_outside client _).quiet
  | peerClosed | readFailed | obeyReading | quitReading => exact beginClose_quiet _ _
  | panicked => exact quiet_nil.cons rfl rfl
  | closed => exact afterClose_quiet client _
  | obeyWaiting => exact (beginAttempt_outside _).quiet.cons rfl rfl
  | quitOpening | quitWaiting => exact (stop_outside client).quiet

/-! ## Reports handed over -/

/-- A client that reads a frame with a report hands it over, and waits for the consumer. -/
theorem takeFrame_of_some (client : Client) {text : String} {report : GroupedReport}
    (h : frameReport? text = some report) :
    client.takeFrame text
      = ({ client with phase := .consuming report.id }, [.read text, frameOutcome text]) := by
  rw [frameOutcome_of_some h]
  unfold frameReport? at h
  unfold takeFrame
  cases hdecode : decodeFrame text with
  | error error =>
      rw [hdecode] at h
      cases h
  | ok found =>
      rw [hdecode] at h
      obtain rfl : found = some report := h
      rfl

/-- A client that reads a frame without a report goes on reading. -/
theorem takeFrame_of_none (client : Client) {text : String} (h : frameReport? text = none) :
    client.takeFrame text = (client, [.read text, frameOutcome text]) := by
  unfold frameReport? at h
  unfold takeFrame frameOutcome
  cases hdecode : decodeFrame text with
  | error error => rfl
  | ok found =>
      rw [hdecode] at h
      obtain rfl : found = none := h
      rfl

/-- A frame that is read is followed by its outcome. -/
theorem takeFrame_snd (client : Client) (text : String) :
    (client.takeFrame text).2 = [.read text, frameOutcome text] := by
  cases hreport : frameReport? text with
  | none => rw [takeFrame_of_none client hreport]
  | some report => rw [takeFrame_of_some client hreport]

/-- The reports handed over in a move are those of the frames that it reads. -/
theorem handed_step (client : Client) (move : ClientMove) :
    handedReports (client.step move).2 = (reads (client.step move).2).filterMap frameReport? := by
  -- only one kind of move is about frames, and it reads at most one
  by_cases hmove : ∃ text, move = .frame text
  · obtain ⟨text, rfl⟩ := hmove
    rw [step]
    split
    · rw [takeFrame_snd]
      cases hreport : frameReport? text with
      | none =>
          have hnone : [text].filterMap frameReport? = [] := by simp [hreport]
          rcases frameOutcome_of_none hreport with houtcome | ⟨error, houtcome⟩
          · rw [houtcome]
            exact hnone.symm
          · rw [houtcome]
            exact hnone.symm
      | some report =>
          have hsome : [text].filterMap frameReport? = [report] := by simp [hreport]
          rw [frameOutcome_of_some hreport]
          exact hsome.symm
    · rfl
  · have hquiet := quiet_step client fun text heq => hmove ⟨text, heq⟩
    rw [hquiet.reads_eq, hquiet.handed_eq, List.filterMap_nil]

/-- **The reports handed to the consumer are those of the frames that were read.** -/
theorem handed_run (client : Client) (moves : List ClientMove) :
    handedReports (events client moves)
      = (reads (events client moves)).filterMap frameReport? := by
  induction moves generalizing client with
  | nil => rfl
  | cons move moves ih =>
      have hstep := handed_step client move
      have hlater := ih (client.step move).1
      simp only [handedReports, reads] at hstep hlater ⊢
      rw [events_cons, List.filterMap_append, List.filterMap_append, List.filterMap_append,
        hstep, hlater]

/-! ## Sessions -/

/-- Outside of sessions, a session begins only with the opening of a connection. -/
theorem outside_step (client : Client) (h : inSession client.phase = false) (move : ClientMove) :
    Outside (client.step move) := by
  -- in a session a client is in other phases
  have hout {phase : Phase} (hphase : client.phase = phase) : inSession phase = false :=
    hphase ▸ h
  have htakes := takes_step client move
  generalize client.step move = moved at htakes
  cases htakes with
  | nothing => exact outside_stay h
  | request | cancel => exact ⟨quiet_nil, (outside_stay h).begins⟩
  | start | wake => exact beginAttempt_outside client
  | opened => exact takeConnection_outside client
  | refused => exact takeRefusal_outside client _
  | frame hreads | peerClosed hreads | readFailed hreads =>
      cases hout ((client.readsNext_iff.mp hreads).1)
  | consumed hphase | panicked hphase | closed hphase => cases hout hphase
  | obeyReading hphase | quitReading hphase => cases hout hphase
  | elapse =>
      refine ⟨quiet_nil, fun hin => ?_⟩
      cases hphase : client.phase <;> simp_all [elapse, inSession]
  | obeyWaiting =>
      have hbegin := beginAttempt_outside { client with requested := false }
      -- the event that the request was taken comes before those of the attempt
      refine ⟨hbegin.quiet.cons rfl rfl, fun hin => ?_⟩
      obtain ⟨event, hevent, hopened⟩ := hbegin.begins hin
      exact ⟨event, List.mem_cons_of_mem _ hevent, hopened⟩
  | quitOpening | quitWaiting => exact stop_outside client

/-- Events without frames add nothing to what is read before a connection is opened. -/
theorem sessions_fst_append {events : List ClientEvent} (h : Quiet events)
    (later : List ClientEvent) :
    (sessions (events ++ later)).1
      = if events.any ClientEvent.isOpened then [] else (sessions later).1 := by
  induction events with
  | nil => rfl
  | cons event events ih =>
      have hrest := ih fun other hother => h other (List.mem_cons_of_mem _ hother)
      have hread := (h event List.mem_cons_self).1
      cases event with
      | opened attempt => rfl
      | read text => cases hread
      | _ => simpa [sessions, ClientEvent.isOpened] using hrest

/-- **A client reads no frame before a connection is opened.** -/
theorem sessions_fst_run {client : Client} (h : inSession client.phase = false)
    (moves : List ClientMove) : (sessions (events client moves)).1 = [] := by
  induction moves generalizing client with
  | nil => rfl
  | cons move moves ih =>
      have houtside := outside_step client h move
      -- a move either opens a connection, which ends this part, or leaves the client outside
      rw [events_cons, sessions_fst_append houtside.quiet]
      by_cases hin : inSession (client.step move).1.phase
      · rw [if_pos]
        exact List.any_eq_true.mpr (houtside.begins hin)
      · rw [Bool.not_eq_true] at hin
        rw [ih hin, ite_self]

/-- What a store holds when it has been the consumer of a client is what the frames hold that
were read from the connections, one connection after another. -/
theorem storeOf_run (delay : Nat) (moves : List ClientMove) :
    storeOf (events (ofDelay delay) moves)
      = ((sessions (events (ofDelay delay) moves)).2.flatten.filterMap frameReport?).foldl
          .add .empty := by
  have hidle : inSession (ofDelay delay).phase = false := rfl
  rw [storeOf, handed_run, reads_eq_sessions, sessions_fst_run hidle, List.nil_append]

end Client

end ReportRelay
