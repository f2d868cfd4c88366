/-
# Timelines of a client

The timeline of a run tells what happens in it, with the times.  What a move does about attempts
and connections is a `Stage`: an attempt begins or fails, a connection is lost and the client
waits, goes on with an attempt or stops, or nothing of that kind.

Whatever happens in a run does so in a stage of a client of which it is known what it remembers of
requests, and when the attempt has begun in which it is (`exists_stage_of_timeline`).
-/
import ReportRelay.Proofs.Client.Cancellation
import ReportRelay.Proofs.Client.Requests

namespace ReportRelay

/-! ## Timelines -/

/-- Tells whether an attempt has failed or a connection is lost. -/
def ClientEvent.isEnding : ClientEvent → Bool
  | .refused _ _ => true
  | .lost _ => true
  | _ => false

namespace Happening

/-- Tells whether an attempt starts. -/
def isAttempt : Happening → Bool
  | seen (.attempted _) => true
  | _ => false

/-- Tells whether a connection is opened. -/
def isOpening : Happening → Bool
  | seen (.opened _) => true
  | _ => false

/-- Tells whether an attempt has failed or a connection is lost. -/
def isEnding : Happening → Bool
  | seen event => event.isEnding
  | _ => false

end Happening

namespace Client

/-- Things that happen at a time. -/
def stamp (time : Nat) (happenings : List Happening) : List (Nat × Happening) :=
  happenings.map fun happening => (time, happening)

/-- What happens in moves, with the times. -/
def timeline (client : Client) : List ClientMove → List (Nat × Happening)
  | [] => []
  | move :: moves =>
    stamp client.clock (happenings client move (client.step move))
      ++ timeline (client.step move).1 moves

/-- A timeline tells the history of a run. -/
theorem timeline_map_snd (client : Client) (moves : List ClientMove) :
    (timeline client moves).map Prod.snd = history client moves := by
  induction moves generalizing client with
  | nil => rfl
  | cons move moves ih =>
      rw [timeline, List.map_append, ih, stamp, List.map_map]
      show (happenings client move (client.step move)).map id ++ _ = _
      rw [List.map_id, history]

/-- What is told of a request is that the client is called. -/
theorem timeline_request (client : Client) (moves : List ClientMove) :
    timeline client (.request :: moves)
      = (client.clock, .called) :: timeline { client with requested := true } moves := by
  rw [timeline, happenings_request]
  rfl

/-- Something that happens does so in a move, after the others before it. -/
theorem exists_move_of_timeline {client : Client} {moves : List ClientMove}
    {earlier later : List (Nat × Happening)} {told : Nat × Happening}
    (h : timeline client moves = earlier ++ told :: later) :
    ∃ before move after first last, moves = before ++ move :: after ∧
      happenings (client.run before).1 move ((client.run before).1.step move)
        = first ++ told.2 :: last ∧
      told.1 = (client.run before).1.clock ∧
      earlier = timeline client before ++ stamp told.1 first ∧
      later = stamp told.1 last ++ timeline ((client.run before).1.step move).1 after := by
  induction moves generalizing client earlier with
  | nil => simp [timeline] at h
  | cons move moves ih =>
      rw [timeline] at h
      rcases List.append_eq_append_iff.mp h with ⟨between, rfl, hlater⟩ | ⟨between, hmove, hrest⟩
      · -- in a later move
        obtain ⟨before, next, after, first, last, rfl, hhappens, htime, rfl, rfl⟩ := ih hlater
        exact ⟨move :: before, next, after, first, last, rfl, hhappens, htime,
          by rw [timeline, List.append_assoc], rfl⟩
      · cases between with
        | nil =>
            -- in a later move, of which it is the first thing
            rw [List.append_nil] at hmove
            obtain ⟨before, next, after, first, last, rfl, hhappens, htime, hnone, rfl⟩ :=
              @ih (client.step move).1 [] hrest.symm
            refine ⟨move :: before, next, after, first, last, rfl, hhappens, htime, ?_, rfl⟩
            rw [← hmove, timeline, List.append_assoc]
            show _ = _ ++ (_ ++ _)
            rw [← hnone, List.append_nil]
        | cons head between =>
            obtain ⟨rfl, rfl⟩ := List.cons.inj hrest
            obtain ⟨first, rest, hhappens, rfl, hstamped⟩ := List.map_eq_append_iff.mp hmove
            obtain ⟨happening, last, rfl, rfl, rfl⟩ := List.map_eq_cons_iff.mp hstamped
            exact ⟨[], move, moves, first, last, rfl, hhappens, rfl, rfl, rfl⟩

variable {client : Client}

/-- What is seen in a history is seen of the moves. -/
theorem mem_events_of_history {moves : List ClientMove} {event : ClientEvent}
    (h : Happening.seen event ∈ history client moves) : event ∈ events client moves := by
  induction moves generalizing client with
  | nil => cases h
  | cons move moves ih =>
      rw [events_cons]
      rcases List.mem_append.mp h with hmove | hlater
      · refine List.mem_append_left _ ?_
        rcases List.mem_append.mp hmove with hnot | hseen
        · -- neither a call nor the end of a connection is seen
          rcases List.mem_append.mp hnot with hcall | htear
          · cases move <;> simp [calls] at hcall
          · simp [tears] at htear
        · obtain ⟨other, hother, heq⟩ := List.mem_map.mp hseen
          rw [← Happening.seen.inj heq]
          exact hother
      · exact List.mem_append_right _ (ih hlater)

/-- No attempt starts. -/
def NoAttempt (told : List (Nat × Happening)) : Prop :=
  ∀ happening ∈ told, happening.2.isAttempt = false

/-- No attempt starts in a run of a client that is cancelled. -/
theorem noAttempt_timeline (h : client.cancelled = true) (moves : List ClientMove) :
    NoAttempt (timeline client moves) := by
  intro told htold
  have hmem : told.2 ∈ history client moves := by
    rw [← timeline_map_snd]
    exact List.mem_map_of_mem htold
  cases hevent : told.2 with
  | called | torn => rfl
  | seen event =>
      rw [hevent] at hmem
      have hcalm := (calm_events h moves event (mem_events_of_history hmem)).1
      cases event with
      | attempted number => cases hcalm
      | _ => rfl

/-- A client that has been cancelled stays so. -/
theorem cancelled_run (h : client.cancelled = true) (moves : List ClientMove) :
    (client.run moves).1.cancelled = true := by
  induction moves generalizing client with
  | nil => exact h
  | cons move moves ih => exact ih (staysCalm_step h move).cancelled

/-! ## Stages -/

/-- The client when it begins its next attempt. -/
def attempting (client : Client) : Client :=
  { client with
    requested := false, attempt := client.attempt + 1, phase := .opening, state := .connecting }

/-- How an attempt or a connection of a client ends, and what comes then. -/
inductive Ending (client : Client) : ClientEvent → Client → List Happening → Prop
  /-- An attempt fails, and the client waits. -/
  | fails {error : ClientError} (hphase : client.phase = .opening) :
      Ending client (.refused client.attempt error) client.pausing []
  /-- A connection is lost, and the client waits. -/
  | loses {reason : StreamEnd} (hphase : client.phase = .closing reason)
      (hforced : reason ≠ .forced) : Ending client (.lost reason) client.pausing []
  /-- A connection is lost that was torn down, and the next attempt begins. -/
  | restarts (hphase : client.phase = .closing .forced) :
      Ending client (.lost .forced) client.attempting
        [.seen (.changed .connecting), .seen (.attempted (client.attempt + 1))]
  /-- A connection is lost, and the client stops, if it is cancelled. -/
  | stops {after : Client} {reason : StreamEnd} (hphase : client.phase = .closing reason)
      (hafter : after.phase = .stopped)
      (hreason : reason = .cancelled ∨ reason = .forced ∧ after.cancelled = true) :
      Ending client (.lost reason) after [.seen .stopped]

/-- What a move does about attempts and connections: an attempt begins, an attempt or a connection
ends, or nothing of that. -/
inductive Stage (client : Client) : Client → List Happening → Prop
  /-- No attempt begins, and neither an attempt nor a connection ends in failure or loss. -/
  | plain {after : Client} {happenings : List Happening}
      (hplain : ∀ happening ∈ happenings,
        happening.isAttempt = false ∧ happening.isEnding = false)
      (hopening : after.phase = .opening → client.phase = .opening ∧
        after.attempt = client.attempt ∧ ∀ happening ∈ happenings, happening.isCall = true) :
      Stage client after happenings
  /-- An attempt begins. -/
  | begins {notes : List Happening}
      (hnotes : ∀ happening ∈ notes,
        happening.isAttempt = false ∧ happening.isEnding = false) :
      Stage client client.attempting (notes ++ [.seen (.attempted (client.attempt + 1))])
  /-- An attempt has failed or a connection is lost. -/
  | ends {event : ClientEvent} {after : Client} {next : List Happening}
      (h : Ending client event after next) :
      Stage client after (.seen (.changed .disconnected) :: .seen event :: next)

/-- A move that leads to no attempt, and shows none and no end of a connection, is plain. -/
theorem Stage.of_ne {after : Client} {events : List ClientEvent} (hphase : after.phase ≠ .opening)
    (hplain : ∀ event ∈ events,
      (Happening.seen event).isAttempt = false ∧ event.isEnding = false) :
    Stage client after (events.map .seen) :=
  .plain (List.forall_mem_map.mpr hplain) fun h => absurd h hphase

/-- A client that stops is plain. -/
theorem stage_stop (client : Client) : Stage client client.stop.1 (client.stop.2.map .seen) := by
  refine .of_ne (by rintro ⟨⟩) fun event hevent => ?_
  rcases eq_of_mem_stop hevent with rfl | rfl <;> exact ⟨rfl, rfl⟩

/-- A client without a connection begins an attempt, or stops. -/
theorem stage_beginAttempt (hstate : client.state = .disconnected) :
    Stage client client.beginAttempt.1 (client.beginAttempt.2.map .seen) := by
  by_cases hcancelled : client.cancelled = true
  · rw [beginAttempt, if_pos hcancelled]
    exact stage_stop client
  · rw [beginAttempt_of_disconnected hstate hcancelled]
    exact @Stage.begins client [.seen (.changed .connecting)]
      (List.forall_mem_singleton.mpr ⟨rfl, rfl⟩)

/-- So does a client that takes a request. -/
theorem stage_hurried (hstate : client.state = .disconnected) :
    let moved := beginAttempt { client with requested := false }
    Stage client moved.1 ((.hurried :: moved.2).map .seen) := by
  intro moved
  by_cases hcancelled : client.cancelled = true
  · have hstop : moved = Client.stop { client with requested := false } := if_pos hcancelled
    rw [hstop]
    refine .of_ne (by rintro ⟨⟩) (List.forall_mem_cons.mpr ⟨⟨rfl, rfl⟩, fun event hevent => ?_⟩)
    rcases eq_of_mem_stop hevent with rfl | rfl <;> exact ⟨rfl, rfl⟩
  · have hbegin := @beginAttempt_of_disconnected { client with requested := false } hstate
      hcancelled
    rw [show moved = _ from hbegin]
    exact @Stage.begins client [.seen .hurried, .seen (.changed .connecting)]
      (List.forall_mem_cons.mpr ⟨⟨rfl, rfl⟩, List.forall_mem_singleton.mpr ⟨rfl, rfl⟩⟩)

/-- A client that has closed its connection waits, begins an attempt, or stops. -/
theorem stage_afterClose {reason : StreamEnd} (hphase : client.phase = .closing reason)
    (hstate : client.state = .connected) :
    Stage client (client.afterClose reason).1 ((client.afterClose reason).2.map .seen) := by
  have hpublish : client.publish .disconnected
      = ({ client with state := .disconnected }, [.changed .disconnected]) :=
    publish_of_ne (by rw [hstate]; decide)
  have hstop := @stop_of_disconnected { client with state := .disconnected } rfl
  rw [afterClose, hpublish]
  cases reason with
  | closed | failed error => exact .ends (.loses hphase (by rintro ⟨⟩))
  | cancelled =>
      simp only [hstop]
      exact .ends (.stops hphase rfl (Or.inl rfl))
  | forced =>
      by_cases hcancelled : client.cancelled = true
      · simp only [beginAttempt, if_pos hcancelled, hstop]
        exact .ends (.stops hphase rfl (Or.inr ⟨rfl, hcancelled⟩))
      · have hbegin := @beginAttempt_of_disconnected { client with state := .disconnected } rfl
          hcancelled
        simp only [hbegin]
        exact .ends (.restarts hphase)

/-- A client that reads a frame is plain. -/
theorem stage_takeFrame (hphase : client.phase = .reading) (text : String) :
    Stage client (client.takeFrame text).1 ((client.takeFrame text).2.map .seen) := by
  have hread : ∀ event : ClientEvent, (Happening.seen event).isAttempt = false →
      event.isEnding = false → ∀ other ∈ [.read text, event],
        (Happening.seen other).isAttempt = false ∧ other.isEnding = false :=
    fun event hattempt hending => List.forall_mem_cons.mpr
      ⟨⟨rfl, rfl⟩, List.forall_mem_singleton.mpr ⟨hattempt, hending⟩⟩
  have hstay : client.phase ≠ .opening := by
    rw [hphase]
    rintro ⟨⟩
  rw [takeFrame]
  split
  · exact .of_ne (by rintro ⟨⟩) (hread _ rfl rfl)
  · exact .of_ne hstay (hread _ rfl rfl)
  · exact .of_ne hstay (hread _ rfl rfl)

/-- What happens in a move that is no request, and tears no connection down, is seen. -/
theorem happenings_eq_seen {move : ClientMove} {moved : Client × List ClientEvent}
    (hmove : move ≠ .request)
    (hunforced : client.phase = .reading → moved.1.phase ≠ .closing .forced) :
    happenings client move moved = moved.2.map .seen := by
  rw [happenings_eq hunforced, calls_eq_nil hmove, List.nil_append]

/-- **Every move is a stage.** -/
theorem stage_step (hsettled : client.state = client.phase.state) (move : ClientMove) :
    Stage client (client.step move).1 (happenings client move (client.step move)) := by
  -- a client that does nothing is where it was
  have hstay {after : Client} (hphase : after.phase = client.phase)
      (hattempt : after.attempt = client.attempt) : Stage client after [] :=
    .plain (List.forall_mem_nil _) fun h => ⟨hphase ▸ h, hattempt, List.forall_mem_nil _⟩
  have hin {phase : Phase} (hphase : client.phase = phase) : client.state = phase.state :=
    hphase ▸ hsettled
  have hone {event : ClientEvent} (hattempt : (Happening.seen event).isAttempt = false)
      (hending : event.isEnding = false) : ∀ other ∈ [event],
        (Happening.seen other).isAttempt = false ∧ other.isEnding = false :=
    List.forall_mem_singleton.mpr ⟨hattempt, hending⟩
  by_cases hrequest : move = .request
  · subst hrequest
    rw [happenings_request]
    exact .plain (List.forall_mem_singleton.mpr ⟨rfl, rfl⟩)
      fun h => ⟨h, rfl, List.forall_mem_singleton.mpr rfl⟩
  have hseen {moved : Client × List ClientEvent}
      (hunforced : client.phase = .reading → moved.1.phase ≠ .closing .forced) :
      happenings client move moved = moved.2.map .seen := happenings_eq_seen hrequest hunforced
  have hother {phase : Phase} (hphase : client.phase = phase) (hne : phase ≠ .reading)
      {after : Client} : client.phase = .reading → after.phase ≠ .closing .forced :=
    fun hreading => absurd (hphase.symm.trans hreading) hne
  have htakes := takes_step client move
  generalize client.step move = moved at htakes
  cases htakes with
  | nothing | cancel =>
      rw [hseen fun hphase => by rw [hphase]; rintro ⟨⟩]
      exact hstay rfl rfl
  | request => exact absurd rfl hrequest
  | start hphase | wake hphase =>
      rw [hseen (hother hphase (by rintro ⟨⟩))]
      exact stage_beginAttempt (hin hphase)
  | opened hphase =>
      rw [hseen (hother hphase (by rintro ⟨⟩)), takeConnection_of_connecting (hin hphase)]
      exact .of_ne (by rintro ⟨⟩) (List.forall_mem_cons.mpr ⟨⟨rfl, rfl⟩, hone rfl rfl⟩)
  | refused hphase =>
      rw [hseen (hother hphase (by rintro ⟨⟩)), takeRefusal_of_connecting (hin hphase)]
      exact .ends (.fails hphase)
  | frame hreads =>
      have hphase := (client.readsNext_iff.mp hreads).1
      rw [hseen fun hphase => takeFrame_unforced hphase _]
      exact stage_takeFrame hphase _
  | peerClosed | readFailed =>
      rw [hseen fun _ => by rintro ⟨⟩]
      exact .of_ne (by rintro ⟨⟩) (hone rfl rfl)
  | consumed hphase =>
      rw [hseen (hother hphase (by rintro ⟨⟩))]
      exact .of_ne (by rintro ⟨⟩) (List.forall_mem_nil _)
  | panicked hphase =>
      rw [hseen (hother hphase (by rintro ⟨⟩))]
      exact .of_ne (by rintro ⟨⟩) (hone rfl rfl)
  | closed hphase =>
      rw [hseen (hother hphase (by rintro ⟨⟩))]
      exact stage_afterClose hphase (hin hphase)
  | elapse =>
      rw [hseen fun hphase => elapse_unforced hphase _]
      simp only [elapse]
      split
      · exact .of_ne (by rintro ⟨⟩) (List.forall_mem_nil _)
      · exact hstay rfl rfl
  | obeyReading hphase =>
      rw [beginClose, happenings, tears_of_reading hphase, calls_eq_nil hrequest]
      exact .plain (List.forall_mem_cons.mpr ⟨⟨rfl, rfl⟩, List.forall_mem_singleton.mpr ⟨rfl, rfl⟩⟩)
        (by rintro ⟨⟩)
  | obeyWaiting hphase =>
      rw [hseen (hother hphase (by rintro ⟨⟩))]
      exact stage_hurried (hin hphase)
  | quitReading =>
      rw [hseen fun _ => by rintro ⟨⟩]
      exact .of_ne (by rintro ⟨⟩) (hone rfl rfl)
  | quitOpening hphase | quitWaiting hphase =>
      rw [hseen (hother hphase (by rintro ⟨⟩))]
      exact stage_stop client

/-- Something that stands once in a list stands where it does. -/
theorem split_unique {kind : Happening → Bool} {before after first last : List Happening}
    {one other : Happening} (h : before ++ one :: after = first ++ other :: last)
    (hother : kind other = true) (hbefore : ∀ happening ∈ before, kind happening = false)
    (hafter : ∀ happening ∈ after, kind happening = false) :
    first = before ∧ other = one ∧ last = after := by
  induction before generalizing first with
  | nil =>
      cases first with
      | nil => exact ⟨rfl, (List.cons.inj h).1.symm, (List.cons.inj h).2.symm⟩
      | cons head first =>
          have hnot := hafter other (by rw [(List.cons.inj h).2]; simp)
          rw [hother] at hnot
          cases hnot
  | cons head before ih =>
      rw [List.forall_mem_cons] at hbefore
      cases first with
      | nil =>
          rw [(List.cons.inj h).1, hother] at hbefore
          cases hbefore.1
      | cons next first =>
          obtain ⟨rfl, hrest⟩ := List.cons.inj h
          obtain ⟨rfl, hone, hlast⟩ := ih hrest hbefore.2
          exact ⟨rfl, hone, hlast⟩

/-- What comes after an ending is no other. -/
theorem Ending.next_plain {event : ClientEvent} {after : Client} {next : List Happening}
    (h : Ending client event after next) : ∀ happening ∈ next, happening.isEnding = false := by
  cases h with
  | fails | loses => exact List.forall_mem_nil _
  | restarts => exact List.forall_mem_cons.mpr ⟨rfl, List.forall_mem_singleton.mpr rfl⟩
  | stops => exact List.forall_mem_singleton.mpr rfl

/-- The failure of an attempt, or the loss of a connection, is an ending. -/
theorem Stage.ending {after : Client} {first next : List Happening} {event : ClientEvent}
    (h : Stage client after (first ++ .seen event :: next)) (hevent : event.isEnding = true) :
    first = [.seen (.changed .disconnected)] ∧ Ending client event after next := by
  have hhappens : (Happening.seen event).isEnding = true := hevent
  have hmem : Happening.seen event ∈ first ++ .seen event :: next := by simp
  generalize hall : first ++ Happening.seen event :: next = happenings at h hmem
  cases h with
  | plain hplain =>
      rw [(hplain _ hmem).2] at hhappens
      cases hhappens
  | begins hnotes =>
      rcases List.mem_append.mp hmem with hmem | hmem
      · rw [(hnotes _ hmem).2] at hhappens
        cases hhappens
      · rw [List.mem_singleton.mp hmem] at hhappens
        cases hhappens
  | @ends other _ more hending =>
      obtain ⟨rfl, heq, rfl⟩ := @split_unique Happening.isEnding
        [.seen (.changed .disconnected)] more first next (.seen other) _ hall.symm hhappens
        (List.forall_mem_singleton.mpr rfl) hending.next_plain
      obtain rfl := Happening.seen.inj heq
      exact ⟨rfl, hending⟩

/-- After an attempt has begun in a stage, the client is at it. -/
theorem Stage.attempted {after : Client} {first next : List Happening} {number : Nat}
    (h : Stage client after (first ++ .seen (.attempted number) :: next)) :
    after = client.attempting ∧ number = client.attempt + 1 ∧ next = [] := by
  have hhappens : (Happening.seen (.attempted number)).isAttempt = true := rfl
  have hmem : Happening.seen (.attempted number) ∈ first ++ .seen (.attempted number) :: next := by
    simp
  generalize hall : first ++ Happening.seen (.attempted number) :: next = happenings at h hmem
  cases h with
  | plain hplain =>
      rw [(hplain _ hmem).1] at hhappens
      cases hhappens
  | begins hnotes =>
      obtain ⟨-, heq, rfl⟩ := split_unique hall.symm hhappens
        (fun other hother => (hnotes other hother).1) (List.forall_mem_nil _)
      cases heq
      exact ⟨rfl, rfl, rfl⟩
  | ends hending =>
      cases hending with
      | fails | loses | stops => simp at hmem
      | restarts =>
          obtain ⟨-, heq, rfl⟩ := @split_unique Happening.isAttempt
            [.seen (.changed .disconnected), .seen (.lost .forced), .seen (.changed .connecting)]
            [] first next (.seen (.attempted (client.attempt + 1))) _ hall.symm hhappens (by decide)
            (List.forall_mem_nil _)
          cases heq
          exact ⟨rfl, rfl, rfl⟩

/-! ## Beginnings -/

/-- An attempt that is under way has begun, and the client has only been called since. -/
def Begun (client : Client) (past : List Happening) : Prop :=
  client.phase = .opening →
    Since [.seen (.attempted client.attempt)] (fun happening => !happening.isCall) past

/-- It has so in every move. -/
theorem Begun.step {past : List Happening} (h : Begun client past)
    (hsettled : client.state = client.phase.state) (move : ClientMove) :
    Begun (client.step move).1 (past ++ happenings client move (client.step move)) := by
  have hstage := stage_step hsettled move
  generalize (client.step move).1 = after, happenings client move (client.step move) = more
    at hstage
  intro hphase
  cases hstage with
  | plain _ hopening =>
      obtain ⟨hwas, hattempt, hcalls⟩ := hopening hphase
      rw [hattempt]
      exact (h hwas).append fun happening hmem => by rw [hcalls happening hmem]; rfl
  | @begins notes =>
      exact ⟨past ++ notes, [], by simp [attempting], List.forall_mem_nil _⟩
  | ends hending =>
      cases hending with
      | fails | loses => cases hphase
      | restarts =>
          let lost : List Happening :=
            [.seen (.changed .disconnected), .seen (.lost .forced), .seen (.changed .connecting)]
          exact ⟨past ++ lost, [], by simp [attempting, lost], List.forall_mem_nil _⟩
      | stops _ hafter =>
          rw [hafter] at hphase
          cases hphase

/-- It has so in every run. -/
theorem Begun.run {past : List Happening} (h : Begun client past)
    (hsettled : client.state = client.phase.state) (moves : List ClientMove) :
    Begun (client.run moves).1 (past ++ history client moves) := by
  induction moves generalizing client past with
  | nil => rwa [history, List.append_nil]
  | cons move moves ih =>
      have hlater := ih (h.step hsettled move) (proceeds_step hsettled move).settled
      rwa [List.append_assoc] at hlater

/-! ## Moments of a run -/

/-- **Whatever happens in a run does so in a stage** of a client that is sound, after what has
happened before it in the run and in the stage. -/
theorem exists_stage_of_timeline {delay : Nat} {moves : List ClientMove}
    {earlier later : List (Nat × Happening)} {told : Nat × Happening}
    (h : timeline (ofDelay delay) moves = earlier ++ told :: later) :
    ∃ client past after first next more,
      client.delay = delay ∧ client.clock = told.1 ∧ Sound client (past.map Prod.snd) ∧
      Begun client (past.map Prod.snd) ∧ Stage client after (first ++ told.2 :: next) ∧
      earlier = past ++ stamp told.1 first ∧ later = stamp told.1 next ++ timeline after more ∧
      ((ofDelay delay).run moves).1 = (after.run more).1 := by
  obtain ⟨before, move, more, first, next, rfl, hhappens, htime, hearlier, hlater⟩ :=
    exists_move_of_timeline h
  have hsound := ((sound_ofDelay delay).run before).sound
  have hbegun : Begun (ofDelay delay) [] := by rintro ⟨⟩
  have hstage := stage_step hsound.settled move
  rw [hhappens] at hstage
  refine ⟨_, timeline (ofDelay delay) before, _, first, next, more, run_delay _ _, htime.symm, ?_,
    ?_, hstage, hearlier, hlater, ?_⟩
  · rw [timeline_map_snd]
    exact hsound
  · rw [timeline_map_snd]
    exact hbegun.run rfl before
  · rw [run_append, run_cons]

/-- What has been so since something happened has a time in the timeline. -/
theorem exists_time_of_since {past : List (Nat × Happening)} {mark : Happening}
    {ends : Happening → Bool} (h : Since [mark] ends (past.map Prod.snd)) :
    ∃ before began since, past = before ++ (began, mark) :: since ∧
      ∀ told ∈ since, ends told.2 = false := by
  obtain ⟨before, after, heq, hafter⟩ := h
  rw [List.append_assoc] at heq
  obtain ⟨told, rest, rfl, rfl, hrest⟩ := List.map_eq_append_iff.mp heq
  obtain ⟨⟨began, happening⟩, since, rfl, rfl, rfl⟩ := List.map_eq_cons_iff.mp hrest
  exact ⟨told, began, since, rfl, List.forall_mem_map.mp hafter⟩

end Client

end ReportRelay
