/-
# What frames and panics do to a client

Every frame that a client reads has one outcome: the report that it holds is handed over, or the
frame is ignored or dropped (`frameOutcome`).  What is seen of a run is a list of frames with their
outcomes, and of other events (`Processed`), so that the reports which are handed over in the
session of a connection are those of the frames which were read in it.

A frame without a report, and a panic of the consumer, leave a client where it would be without
them.  So a run may be smoothed: without such frames, and with a consumer that is done with every
report, it shows the same apart from what is seen of them (`run_smooth`).
-/
import ReportRelay.Proofs.Client.Scripts

namespace ReportRelay

/-! ## Outcomes of frames -/

/-- Tells whether a frame holds a report that can be grouped. -/
def holdsReport (text : String) : Bool := (frameReport? text).isSome

namespace Client

/-- The reports handed over before a connection was opened, and those in the session of each
connection. -/
def handovers : List ClientEvent → List GroupedReport × List (List GroupedReport)
  | [] => ([], [])
  | .opened _ :: events => ([], (handovers events).1 :: (handovers events).2)
  | .handed report :: events => (report :: (handovers events).1, (handovers events).2)
  | _ :: events => handovers events

/-- Events among which every frame that is read is followed by its outcome at once, and no report
is handed over otherwise. -/
inductive Processed : List ClientEvent → Prop
  /-- There are no events. -/
  | nil : Processed []
  /-- A frame, its outcome, and what follows. -/
  | frame {text : String} {events : List ClientEvent} (h : Processed events) :
      Processed (.read text :: frameOutcome text :: events)
  /-- An event that is not about a frame, or an outcome without a report, and what follows. -/
  | other {event : ClientEvent} {events : List ClientEvent} (hread : event.read? = none)
      (hhanded : event.handed? = none) (h : Processed events) : Processed (event :: events)

/-- Events that are processed one after the other are processed. -/
theorem Processed.append {events later : List ClientEvent} (h : Processed events)
    (hlater : Processed later) : Processed (events ++ later) := by
  induction h with
  | nil => exact hlater
  | frame _ ih => exact .frame ih
  | other hread hhanded _ ih => exact .other hread hhanded ih

/-- Events without frames are processed. -/
theorem Quiet.processed {events : List ClientEvent} (h : Quiet events) : Processed events := by
  induction events with
  | nil => exact .nil
  | cons event events ih =>
      obtain ⟨hread, hhanded⟩ := h event List.mem_cons_self
      exact .other hread hhanded (ih fun other hother => h other (List.mem_cons_of_mem _ hother))

/-- What is seen of a move is processed. -/
theorem processed_step (client : Client) (move : ClientMove) :
    Processed (client.step move).2 := by
  by_cases hmove : ∃ text, move = .frame text
  · obtain ⟨text, rfl⟩ := hmove
    rw [step]
    split
    · rw [takeFrame_snd]
      exact .frame .nil
    · exact .nil
  · exact (quiet_step client fun text heq => hmove ⟨text, heq⟩).processed

/-- **What is seen of a run is processed.** -/
theorem processed_events (client : Client) (moves : List ClientMove) :
    Processed (events client moves) := by
  induction moves generalizing client with
  | nil => exact .nil
  | cons move moves ih =>
      rw [events_cons]
      exact (processed_step client move).append (ih _)

/-- The reports handed over in each session are those of the frames read in it. -/
theorem Processed.handovers_eq {events : List ClientEvent} (h : Processed events) :
    handovers events = ((sessions events).1.filterMap frameReport?,
      (sessions events).2.map (List.filterMap frameReport?)) := by
  induction h with
  | nil => rfl
  | @frame text events _ ih =>
      rw [sessions, List.filterMap_cons]
      cases hreport : frameReport? text with
      | none =>
          rcases frameOutcome_of_none hreport with houtcome | ⟨error, houtcome⟩
          · rw [houtcome]
            exact ih
          · rw [houtcome]
            exact ih
      | some report =>
          rw [frameOutcome_of_some hreport]
          simp only [handovers, sessions, ih]
  | @other event events hread hhanded _ ih =>
      cases event with
      | opened attempt => simp only [handovers, sessions, ih, List.filterMap_nil, List.map_cons]
      | read text => cases hread
      | handed report => cases hhanded
      | _ => exact ih

end Client

/-! ## Smoothing -/

/-- Tells whether an event is of no consequence: it is about a frame without a report, or a panic
of the consumer. -/
def ClientEvent.isNoise : ClientEvent → Bool
  | .read text => !holdsReport text
  | .ignored => true
  | .dropped _ => true
  | .panicked _ _ => true
  | _ => false

/-- A move, unless it is a frame without a report; a consumer that panics is done instead. -/
def ClientMove.smooth? : ClientMove → Option ClientMove
  | .frame text => if holdsReport text then some (.frame text) else none
  | .panicked _ => some .consumed
  | move => some move

namespace Client

/-- The moves without frames that hold no report, and with a consumer that is done with every
report. -/
def smooth (moves : List ClientMove) : List ClientMove := moves.filterMap ClientMove.smooth?

/-- Events of consequence. -/
def Clear (events : List ClientEvent) : Prop := ∀ event ∈ events, event.isNoise = false

variable {client : Client}

theorem clear_nil : Clear [] := fun _ h => by cases h

theorem Clear.cons {event : ClientEvent} {events : List ClientEvent}
    (hevent : event.isNoise = false) (h : Clear events) : Clear (event :: events) :=
  List.forall_mem_cons.mpr ⟨hevent, h⟩

theorem Clear.append {events later : List ClientEvent} (h : Clear events) (hlater : Clear later) :
    Clear (events ++ later) :=
  List.forall_mem_append.mpr ⟨h, hlater⟩

theorem clear_publish (client : Client) (state : ClientState) :
    Clear (client.publish state).2 := by
  intro event hevent
  rw [eq_changed_of_mem_publish hevent]
  rfl

theorem clear_stop (client : Client) : Clear client.stop.2 :=
  (clear_publish client _).append (clear_nil.cons rfl)

theorem clear_beginAttempt (client : Client) : Clear client.beginAttempt.2 := by
  unfold beginAttempt
  split
  · exact clear_stop client
  · exact (clear_publish _ _).append (clear_nil.cons rfl)

theorem clear_afterClose (client : Client) (reason : StreamEnd) :
    Clear (client.afterClose reason).2 := by
  have hpublish := clear_publish client .disconnected
  cases reason with
  | cancelled => exact hpublish.append ((clear_stop _).cons rfl)
  | forced => exact hpublish.append ((clear_beginAttempt _).cons rfl)
  | closed | failed error => exact hpublish.append (clear_nil.cons rfl)

/-- A move that stays when it is smoothed is of consequence, unless the consumer panics. -/
theorem clear_step {move : ClientMove} (h : move.smooth? = some move) :
    Clear (client.step move).2 := by
  have htakes := takes_step client move
  generalize client.step move = moved at htakes
  cases htakes with
  | nothing | request | cancel | consumed | elapse => exact clear_nil
  | start | wake => exact clear_beginAttempt client
  | opened | refused => exact (clear_publish _ _).append (clear_nil.cons rfl)
  | @frame text =>
      obtain ⟨hreport, -⟩ := Option.ite_none_right_eq_some.mp h
      obtain ⟨report, hsome⟩ := Option.isSome_iff_exists.mp hreport
      have hread : (ClientEvent.read text).isNoise = false := by
        rw [ClientEvent.isNoise, hreport, Bool.not_true]
      rw [takeFrame_snd, frameOutcome_of_some hsome]
      exact (clear_nil.cons rfl).cons hread
  | peerClosed | readFailed | obeyReading | quitReading => exact clear_nil.cons rfl
  | panicked => cases h
  | closed => exact clear_afterClose client _
  | obeyWaiting => exact (clear_beginAttempt _).cons rfl
  | quitOpening | quitWaiting => exact clear_stop client

/-- Events that are all of no consequence leave nothing. -/
theorem filter_noise {events : List ClientEvent} (h : ∀ event ∈ events, event.isNoise = true) :
    events.filter (fun event => !event.isNoise) = [] :=
  List.filter_eq_nil_iff.mpr fun event hevent => by simp [h event hevent]

/-- A move that is left out when it is smoothed leaves the client as it is, and what is seen of it
is of no consequence. -/
theorem step_of_smooth?_none (client : Client) {move : ClientMove} (h : move.smooth? = none) :
    (client.step move).1 = client
      ∧ (client.step move).2.filter (fun event => !event.isNoise) = [] := by
  cases move with
  | frame text =>
      have hnone : holdsReport text = false := by
        simpa [ClientMove.smooth?] using h
      have hreport : frameReport? text = none := by
        simpa [holdsReport] using hnone
      have hread : (ClientEvent.read text).isNoise = true := by
        rw [ClientEvent.isNoise, hnone, Bool.not_false]
      have houtcome : (frameOutcome text).isNoise = true := by
        rcases frameOutcome_of_none hreport with heq | ⟨error, heq⟩ <;> rw [heq] <;> rfl
      rw [step]
      split
      · rw [takeFrame_of_none client hreport]
        exact ⟨rfl, filter_noise
          (List.forall_mem_cons.mpr ⟨hread, List.forall_mem_singleton.mpr houtcome⟩)⟩
      · exact ⟨rfl, rfl⟩
  | _ => cases h

/-- What a move becomes when it is smoothed shows the same, apart from what is of no
consequence. -/
theorem step_of_smooth?_some (client : Client) {move smoothed : ClientMove}
    (h : move.smooth? = some smoothed) :
    client.step smoothed
      = ((client.step move).1, (client.step move).2.filter fun event => !event.isNoise) := by
  by_cases hpanic : ∃ info, move = .panicked info
  · -- a consumer that panics leaves the client where one leaves it that is done
    obtain ⟨info, rfl⟩ := hpanic
    obtain rfl : ClientMove.consumed = smoothed := Option.some.inj h
    rw [step, step]
    split <;> rfl
  · obtain rfl : move = smoothed := by
      cases move with
      | panicked info => exact absurd ⟨info, rfl⟩ hpanic
      | frame text => exact Option.some.inj (Option.ite_none_right_eq_some.mp h).2
      | _ => exact Option.some.inj h
    have hkeep : (client.step move).2.filter (fun event => !event.isNoise)
        = (client.step move).2 :=
      List.filter_eq_self.mpr fun event hevent => by
        rw [clear_step h event hevent, Bool.not_false]
    rw [hkeep]

/-- **A run that is smoothed shows the same, apart from what is of no consequence.** -/
theorem run_smooth (client : Client) (moves : List ClientMove) :
    client.run (smooth moves)
      = ((client.run moves).1, (client.run moves).2.filter fun event => !event.2.isNoise) := by
  induction moves generalizing client with
  | nil => rfl
  | cons move moves ih =>
      -- what is seen of a move has one time, which filtering leaves as it is
      have htimes (events : List ClientEvent) :
          (events.map fun event => (client.clock, event)).filter (fun event => !event.2.isNoise)
            = (events.filter fun event => !event.isNoise).map fun event => (client.clock, event) :=
        List.filter_map
      rw [run_cons, List.filter_append, htimes]
      cases hsmooth : move.smooth? with
      | none =>
          obtain ⟨hstay, hnone⟩ := step_of_smooth?_none client hsmooth
          rw [smooth, List.filterMap_cons_none hsmooth, hnone, hstay, List.map_nil, List.nil_append]
          exact ih client
      | some smoothed =>
          rw [smooth, List.filterMap_cons_some hsmooth, ← smooth, run_cons,
            step_of_smooth?_some client hsmooth, ih]

/-! ## Frames that are served -/

/-- How a consumer ends with a report: it is done, or it panics, with a text if it gives one. -/
def consumerMove : Option (Option String) → ClientMove
  | none => .consumed
  | some info => .panicked info

/-- The moves that read frames one after another, each with the end of a consumer if it gets a
report. -/
def serveMoves (frames : List (String × Option (Option String))) : List ClientMove :=
  frames.flatMap fun frame => [.frame frame.1, consumerMove frame.2]

/-- What is seen of a frame and of the consumer of its report. -/
def served (frame : String × Option (Option String)) : List ClientEvent :=
  .read frame.1 :: frameOutcome frame.1 ::
    match frameReport? frame.1, frame.2 with
    | some report, some info => [.panicked report.id info]
    | _, _ => []

/-- A client that reads is the same after a frame, whatever that holds and the consumer does. -/
theorem run_serve (hreads : client.readsNext = true) (frame : String × Option (Option String)) :
    client.run [.frame frame.1, consumerMove frame.2]
      = (client, (served frame).map fun event => (client.clock, event)) := by
  obtain ⟨text, ending⟩ := frame
  obtain ⟨delay, phase, state, attempt, requested, cancelled, clock⟩ := client
  obtain ⟨rfl, rfl, rfl⟩ := (readsNext_iff _).mp hreads
  rw [run_cons, step, if_pos hreads]
  cases hreport : frameReport? text with
  | none =>
      -- the end of a consumer is nothing to a client that has called none
      rw [takeFrame_of_none _ hreport, run_cons, served, hreport]
      cases ending <;> rfl
  | some report =>
      rw [takeFrame_of_some _ hreport, run_cons, served, hreport]
      cases ending <;> rfl

/-- **A client that reads serves all frames**, and is the same after them, whatever they hold and
the consumer does. -/
theorem run_serveMoves (hreads : client.readsNext = true)
    (frames : List (String × Option (Option String))) :
    client.run (serveMoves frames)
      = (client, (frames.flatMap served).map fun event => (client.clock, event)) := by
  induction frames with
  | nil => rfl
  | cons frame frames ih =>
      rw [serveMoves, List.flatMap_cons, ← serveMoves, run_append, run_serve hreads, ih,
        List.flatMap_cons, List.map_append]

/-! ## Frames in runs -/

/-- The reports of frames are those of the frames that hold one. -/
theorem filterMap_filter_holdsReport (frames : List String) :
    (frames.filter holdsReport).filterMap frameReport? = frames.filterMap frameReport? := by
  have hreport : (fun text => if holdsReport text then frameReport? text else none)
      = frameReport? := by
    funext text
    cases hreport : frameReport? text with
    | none => exact ite_self _
    | some report => rw [if_pos (by rw [holdsReport, hreport, Option.isSome_some])]
  rw [List.filterMap_filter, hreport]

/-- **Frames drop only bad messages.**  In the session of each connection the reports handed to the
consumer are those of the frames that were read in it, each once and in their order.  A run with
other frames that hold no report, and another consumer that panics over any of its reports, leads
to the same client and shows the same, apart from what is seen of these frames and panics; and two
runs whose connections bring the same frames with reports hand over the same.  A client that reads
serves any frames that come, whatever they hold and the consumer does, and is the same after
them. -/
theorem frames_of_run (delay : Nat) (moves : List ClientMove) :
    let client := ((ofDelay delay).run moves).1
    let seen := events (ofDelay delay) moves
    handovers seen = ([], (sessions seen).2.map (List.filterMap frameReport?)) ∧
    (∀ others, smooth others = smooth moves →
      ((ofDelay delay).run others).1 = client ∧
      ((ofDelay delay).run others).2.filter (fun event => !event.2.isNoise)
        = ((ofDelay delay).run moves).2.filter fun event => !event.2.isNoise) ∧
    (∀ otherDelay others,
      (sessions (events (ofDelay otherDelay) others)).2.map (List.filter holdsReport)
          = (sessions seen).2.map (List.filter holdsReport) →
        handovers (events (ofDelay otherDelay) others) = handovers seen) ∧
    (client.readsNext = true → ∀ frames, client.run (serveMoves frames)
      = (client, (frames.flatMap served).map fun event => (client.clock, event))) := by
  intro client seen
  have hhanded : ∀ (delay : Nat) (moves : List ClientMove),
      handovers (events (ofDelay delay) moves)
        = ([], (sessions (events (ofDelay delay) moves)).2.map (List.filterMap frameReport?)) := by
    intro delay moves
    have hidle : inSession (ofDelay delay).phase = false := rfl
    rw [(processed_events _ _).handovers_eq, sessions_fst_run hidle, List.filterMap_nil]
  refine ⟨hhanded delay moves, fun others hothers => ?_, fun otherDelay others hframes => ?_,
    run_serveMoves⟩
  · have hsame : (ofDelay delay).run (smooth others) = (ofDelay delay).run (smooth moves) := by
      rw [hothers]
    rw [run_smooth, run_smooth] at hsame
    exact Prod.mk.inj hsame
  · -- the reports of a session are those of its frames that hold one
    have hreports (sessions : List (List String)) :
        sessions.map (List.filterMap frameReport?)
          = (sessions.map (List.filter holdsReport)).map (List.filterMap frameReport?) := by
      rw [List.map_map]
      exact List.map_congr_left fun frames _ => (filterMap_filter_holdsReport frames).symm
    rw [hhanded otherDelay others, hhanded delay moves, hreports, hframes, ← hreports]

/-- A text that is no message, a message of a type that is not known, and a panic change nothing
about the reports that are handed over. -/
theorem frames_of_panic_and_bad_frames :
    let report := "[\"new_report\",\x7b\"id\":\"r\"\x7d]"
    let plain : List ClientMove :=
      [.start, .opened, .frame report, .consumed, .frame report, .consumed]
    let noisy : List ClientMove :=
      [.start, .opened, .frame "?", .frame report, .panicked none, .frame "[\"hello\"]",
        .frame report, .consumed]
    smooth noisy = smooth plain ∧
      ((ofDelay 5).run noisy).1 = ((ofDelay 5).run plain).1 ∧
      ((ofDelay 5).run plain).1.readsNext = true ∧
      handovers (events (ofDelay 5) noisy) = handovers (events (ofDelay 5) plain) ∧
      (handedReports (events (ofDelay 5) noisy)).map GroupedReport.id = ["r", "r"] := by
  intro report plain noisy
  obtain ⟨-, hsmooth, hsessions, -⟩ := frames_of_run 5 plain
  have hsame : smooth noisy = smooth plain := rfl
  have hframes : (sessions (events (ofDelay 5) noisy)).2.map (List.filter holdsReport)
      = (sessions (events (ofDelay 5) plain)).2.map (List.filter holdsReport) := by
    decide +kernel
  exact ⟨hsame, (hsmooth noisy hsame).1, by decide +kernel, hsessions 5 noisy hframes,
    by decide +kernel⟩

end Client

end ReportRelay
