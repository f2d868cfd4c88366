/-
# What a client does about its connections

A client opens a connection, reads frames from it, closes it, and publishes that there is none.
`Dealing` lists these acts, with the moment at which a closing is over, and `record` is the
complete account of attempts to open a connection: one that has failed or was given up, and one
that has brought a connection, in their order and each from its beginning to its end.

What is seen of a run is the account of the attempts that are over and the beginning of that of the
latest one, as far as the phase of the client tells (`Keeps`).
-/
import ReportRelay.Proofs.Client.Cancellation

namespace ReportRelay

/-! ## Dealings -/

/-- What a client does about a connection, and what it publishes when there is none. -/
inductive Dealing where
  /-- It starts an attempt to open a connection. -/
  | attempted (attempt : Nat)
  /-- The attempt has brought a connection. -/
  | opened (attempt : Nat)
  /-- It reads a frame. -/
  | read (text : String)
  /-- It starts to close the connection of an attempt. -/
  | closing (attempt : Nat)
  /-- The connection of an attempt is closed. -/
  | closed (attempt : Nat)
  /-- It publishes that there is no connection. -/
  | disconnected
  deriving DecidableEq, Repr

namespace Dealing

/-- The connections that are open after something is done, given those open before. -/
def track (connections : List Nat) : Dealing → List Nat
  | opened attempt => attempt :: connections
  | closed attempt => connections.erase attempt
  | _ => connections

/-- Tells whether a connection is opened. -/
def isOpened : Dealing → Bool
  | opened _ => true
  | _ => false

/-- The connections, by the numbers of their attempts, that are open after dealings. -/
def stillOpen (dealings : List Dealing) : List Nat := dealings.foldl track []

/-- There are no more open connections than have been opened. -/
theorem length_foldl_track_le (connections : List Nat) (dealings : List Dealing) :
    (dealings.foldl track connections).length
      ≤ connections.length + dealings.countP isOpened := by
  induction dealings generalizing connections with
  | nil => exact Nat.le_refl _
  | cons dealing dealings ih =>
      have hlater := ih (track connections dealing)
      rw [List.foldl_cons, List.countP_cons]
      cases dealing with
      | opened attempt =>
          simp only [track, isOpened, List.length_cons, if_true] at hlater ⊢
          omega
      | closed attempt =>
          have herase := List.length_erase_le (a := attempt) (l := connections)
          simp only [track, isOpened] at hlater ⊢
          simp only [Bool.false_eq_true, if_false]
          omega
      | _ => simpa [track, isOpened] using hlater

/-- Reading changes nothing about what is open. -/
theorem foldl_track_read (connections : List Nat) (frames : List String) :
    (frames.map read).foldl track connections = connections := by
  induction frames with
  | nil => rfl
  | cons text frames ih => exact ih

end Dealing

/-! ## Accounts of attempts -/

/-- What came of an attempt to open a connection. -/
inductive Attempt where
  /-- It has failed, or was given up. -/
  | failed
  /-- It has brought a connection, from which these frames were read. -/
  | connected (frames : List String)

/-- All that is done about an attempt: a connection is closed once, after its last frame has been
read and before it is published that there is none. -/
def Attempt.dealings (number : Nat) : Attempt → List Dealing
  | failed => [.attempted number, .disconnected]
  | connected frames =>
    .attempted number :: .opened number :: frames.map .read
      ++ [.closing number, .closed number, .disconnected]

/-- All that is done about attempts, the first of which has the number after the given one. -/
def recordAfter (number : Nat) : List Attempt → List Dealing
  | [] => []
  | attempt :: attempts => attempt.dealings (number + 1) ++ recordAfter (number + 1) attempts

/-- All that is done about attempts, one after the other. -/
def record (attempts : List Attempt) : List Dealing := recordAfter 0 attempts

/-- The account of one more attempt comes after those of the others. -/
theorem recordAfter_concat (number : Nat) (attempts : List Attempt) (attempt : Attempt) :
    recordAfter number (attempts ++ [attempt])
      = recordAfter number attempts ++ attempt.dealings (number + attempts.length + 1) := by
  induction attempts generalizing number with
  | nil => simp [recordAfter]
  | cons first attempts ih =>
      simp only [List.cons_append, recordAfter, ih, List.append_assoc, List.length_cons]
      congr 4
      omega

/-- The account of one more attempt comes last. -/
theorem record_concat (attempts : List Attempt) (attempt : Attempt) :
    record (attempts ++ [attempt]) = record attempts ++ attempt.dealings (attempts.length + 1) := by
  rw [record, recordAfter_concat, Nat.zero_add, record]

/-- At most one connection is opened in an attempt. -/
theorem Attempt.countP_isOpened_le (attempt : Attempt) (number : Nat) :
    (attempt.dealings number).countP Dealing.isOpened ≤ 1 := by
  cases attempt with
  | failed => exact Nat.zero_le 1
  | connected frames =>
      have hreads : (frames.map Dealing.read).countP Dealing.isOpened = 0 := by
        rw [List.countP_map]
        exact List.countP_eq_zero.mpr fun _ _ => Bool.false_ne_true
      simp [dealings, List.countP_cons, hreads, Dealing.isOpened]

/-- No connection is open after an attempt. -/
theorem Attempt.stillOpen_dealings (attempt : Attempt) (number : Nat) :
    Dealing.stillOpen (attempt.dealings number) = [] := by
  cases attempt with
  | failed => rfl
  | connected frames =>
      simp [Dealing.stillOpen, dealings, Dealing.track, Dealing.foldl_track_read]

/-- What is open after an attempt and what follows is open after what follows. -/
theorem Attempt.stillOpen_append (attempt : Attempt) (number : Nat) (later : List Dealing) :
    Dealing.stillOpen (attempt.dealings number ++ later) = Dealing.stillOpen later := by
  have hnone : (attempt.dealings number).foldl Dealing.track [] = [] :=
    attempt.stillOpen_dealings number
  rw [Dealing.stillOpen, List.foldl_append, hnone, Dealing.stillOpen]

/-- No connection is open after all attempts. -/
theorem stillOpen_recordAfter (number : Nat) (attempts : List Attempt) :
    Dealing.stillOpen (recordAfter number attempts) = [] := by
  induction attempts generalizing number with
  | nil => rfl
  | cons attempt attempts ih => rw [recordAfter, attempt.stillOpen_append, ih]

/-- **At no point of an account is more than one connection open.** -/
theorem length_stillOpen_le {number : Nat} {attempts : List Attempt} {earlier : List Dealing}
    (h : earlier <+: recordAfter number attempts) :
    (Dealing.stillOpen earlier).length ≤ 1 := by
  induction attempts generalizing number earlier with
  | nil =>
      rw [recordAfter, List.prefix_nil] at h
      rw [h]
      decide
  | cons attempt attempts ih =>
      rw [recordAfter] at h
      rcases List.prefix_or_prefix_of_prefix h (List.prefix_append _ _) with
        hwithin | ⟨later, rfl⟩
      · -- within the first attempt
        have hopened := hwithin.sublist.countP_le (p := Dealing.isOpened)
        have hone := attempt.countP_isOpened_le (number + 1)
        have hlength := Dealing.length_foldl_track_le [] earlier
        simp only [List.length_nil] at hlength
        show (earlier.foldl Dealing.track []).length ≤ 1
        omega
      · rw [attempt.stillOpen_append]
        exact ih ((List.prefix_append_right_inj _).mp h)

/-! ## Dealings of a client -/

/-- What an event shows to be done about a connection. -/
def ClientEvent.dealing? : ClientEvent → Option Dealing
  | .attempted attempt => some (.attempted attempt)
  | .opened attempt => some (.opened attempt)
  | .read text => some (.read text)
  | .closing attempt => some (.closing attempt)
  | .changed .disconnected => some .disconnected
  | _ => none

namespace Client

/-- What events show to be done about connections. -/
def dealt (events : List ClientEvent) : List Dealing := events.filterMap ClientEvent.dealing?

@[simp] theorem dealt_nil : dealt [] = [] := rfl

/-- The end of the closing of a connection, if the move is that. -/
def closed? (client : Client) (move : ClientMove) : Option Dealing :=
  match client.phase, move with
  | .closing _, .closed => some (.closed client.attempt)
  | _, _ => none

/-- What is done about connections in a move: a closing ends before anything that follows it. -/
def dealingsOf (client : Client) (move : ClientMove) : List Dealing :=
  (client.closed? move).toList ++ dealt (client.step move).2

/-- What is done about connections in moves. -/
def dealings (client : Client) : List ClientMove → List Dealing
  | [] => []
  | move :: moves => client.dealingsOf move ++ dealings (client.step move).1 moves

/-! ## The account of a run -/

/-- What has been done in the attempt of a number by a client in a phase that has read these
frames in it. -/
def underway (number : Nat) (frames : List String) : Phase → List Dealing
  | .opening => [.attempted number]
  | .reading => .attempted number :: .opened number :: frames.map .read
  | .consuming _ => .attempted number :: .opened number :: frames.map .read
  | .closing _ =>
    .attempted number :: .opened number :: frames.map .read ++ [.closing number]
  | _ => []

/-- The number of attempts that a client in a phase has not finished. -/
def unfinished : Phase → Nat
  | .opening => 1
  | .reading => 1
  | .consuming _ => 1
  | .closing _ => 1
  | _ => 0

/-- Dealings are the account of attempts that are over, and of what has been done in the one in
which the client is. -/
def Keeps (client : Client) (seen : List Dealing) : Prop :=
  ∃ attempts frames, seen = record attempts ++ underway client.attempt frames client.phase
    ∧ client.attempt = attempts.length + unfinished client.phase

/-- Dealings are the account of all attempts, and the client has no connection. -/
structure Rests (client : Client) (seen : List Dealing) : Prop where
  state : client.state = .disconnected
  account : ∃ attempts, seen = record attempts ∧ client.attempt = attempts.length

/-- A client that is in no attempt rests in its state. -/
theorem Keeps.rests {client : Client} {seen : List Dealing} (h : client.Keeps seen)
    (hstate : client.state = .disconnected)
    (hphase : ∀ number frames, underway number frames client.phase = [])
    (hnone : unfinished client.phase = 0) : client.Rests seen := by
  obtain ⟨attempts, frames, hseen, hattempt⟩ := h
  rw [hphase, List.append_nil] at hseen
  rw [hnone] at hattempt
  exact ⟨hstate, attempts, hseen, hattempt⟩

/-- A client that rests is in no attempt in a phase without one. -/
theorem Rests.keeps {client : Client} {seen : List Dealing} (h : client.Rests seen)
    (hphase : ∀ number frames, underway number frames client.phase = [])
    (hnone : unfinished client.phase = 0) : client.Keeps seen := by
  obtain ⟨attempts, hseen, hattempt⟩ := h.account
  exact ⟨attempts, [], by rw [hphase, List.append_nil, hseen], by rw [hnone, hattempt]; rfl⟩

/-- A resting client that stops has dealt with nothing more. -/
theorem Rests.stop {client : Client} {seen : List Dealing} (h : client.Rests seen) :
    client.stop.1.Keeps (seen ++ dealt client.stop.2) := by
  have hrests : Rests { client with phase := .stopped } seen := ⟨h.state, h.account⟩
  rw [stop_of_disconnected h.state]
  show Keeps { client with phase := .stopped } (seen ++ [])
  rw [List.append_nil]
  exact hrests.keeps (fun _ _ => rfl) rfl

/-- A resting client starts an attempt, or stops. -/
theorem Rests.beginAttempt {client : Client} {seen : List Dealing} (h : client.Rests seen) :
    client.beginAttempt.1.Keeps (seen ++ dealt client.beginAttempt.2) := by
  by_cases hcancelled : client.cancelled
  · rw [Client.beginAttempt, if_pos hcancelled]
    exact h.stop
  · obtain ⟨attempts, rfl, hattempt⟩ := h.account
    rw [beginAttempt_of_disconnected h.state hcancelled]
    refine ⟨attempts, [], rfl, ?_⟩
    show client.attempt + 1 = attempts.length + 1
    rw [hattempt]

/-- A client that has given up its attempt rests when it has published that. -/
theorem Keeps.rests_of_opening {client : Client} {seen : List Dealing} (h : client.Keeps seen)
    (hphase : client.phase = .opening) {after : Client} (hstate : after.state = .disconnected)
    (hattempt : after.attempt = client.attempt) : after.Rests (seen ++ [.disconnected]) := by
  obtain ⟨attempts, frames, rfl, hcount⟩ := h
  rw [hphase] at hcount ⊢
  refine ⟨hstate, attempts ++ [.failed], ?_, ?_⟩
  · rw [record_concat, hcount, List.append_assoc]
    rfl
  · rw [hattempt, hcount, List.length_append]
    rfl

/-- A client that has closed its connection rests when it has published that. -/
theorem Keeps.rests_of_closing {client : Client} {seen : List Dealing} (h : client.Keeps seen)
    {reason : StreamEnd} (hphase : client.phase = .closing reason) {after : Client}
    (hstate : after.state = .disconnected) (hattempt : after.attempt = client.attempt) :
    after.Rests (seen ++ [.closed client.attempt, .disconnected]) := by
  obtain ⟨attempts, frames, rfl, hcount⟩ := h
  rw [hphase] at hcount ⊢
  refine ⟨hstate, attempts ++ [.connected frames], ?_, ?_⟩
  · rw [record_concat, hcount, List.append_assoc]
    simp [underway, unfinished, Attempt.dealings]
  · rw [hattempt, hcount, List.length_append]
    rfl

/-- A client that goes on in its attempt adds to what has been done in it. -/
theorem Keeps.advance {client : Client} {seen : List Dealing} (h : client.Keeps seen)
    {after : Client} {new : List Dealing} (hattempt : after.attempt = client.attempt)
    (hphase : unfinished after.phase = unfinished client.phase)
    (hnew : ∀ number frames, ∃ frames', number = client.attempt →
      underway number frames client.phase ++ new = underway number frames' after.phase) :
    after.Keeps (seen ++ new) := by
  obtain ⟨attempts, frames, rfl, hcount⟩ := h
  obtain ⟨frames', hunderway⟩ := hnew client.attempt frames
  refine ⟨attempts, frames', ?_, ?_⟩
  · rw [List.append_assoc, hunderway rfl, hattempt]
  · rw [hattempt, hphase, hcount]

/-- A client that stays where it is in its attempt has done nothing more. -/
theorem Keeps.stay {client : Client} {seen : List Dealing} (h : client.Keeps seen)
    {after : Client} (hattempt : after.attempt = client.attempt)
    (hphase : unfinished after.phase = unfinished client.phase)
    (hunderway : ∀ number frames,
      underway number frames after.phase = underway number frames client.phase) :
    after.Keeps (seen ++ []) :=
  h.advance hattempt hphase fun number frames =>
    ⟨frames, fun _ => by rw [List.append_nil, hunderway]⟩

/-! ## Moves -/

/-- A client that takes the connection has opened it. -/
theorem Keeps.takeConnection {client : Client} {seen : List Dealing} (h : client.Keeps seen)
    (hphase : client.phase = .opening) (hstate : client.state = .connecting) :
    client.takeConnection.1.Keeps (seen ++ dealt client.takeConnection.2) := by
  rw [takeConnection_of_connecting hstate]
  refine h.advance rfl (by rw [hphase]; rfl) fun number frames => ⟨[], ?_⟩
  rintro rfl
  rw [hphase]
  rfl

/-- A client whose attempt has failed rests. -/
theorem Keeps.takeRefusal {client : Client} {seen : List Dealing} (h : client.Keeps seen)
    (hphase : client.phase = .opening) (hstate : client.state = .connecting)
    (error : ClientError) :
    (client.takeRefusal error).1.Keeps (seen ++ dealt (client.takeRefusal error).2) := by
  have hrests : Rests { client with state := .disconnected, phase := .waiting 0 }
      (seen ++ [.disconnected]) := h.rests_of_opening hphase rfl rfl
  rw [takeRefusal_of_connecting hstate]
  exact hrests.keeps (fun _ _ => rfl) rfl

/-- A client that gives up its attempt rests. -/
theorem Keeps.stop_of_opening {client : Client} {seen : List Dealing} (h : client.Keeps seen)
    (hphase : client.phase = .opening) (hstate : client.state = .connecting) :
    client.stop.1.Keeps (seen ++ dealt client.stop.2) := by
  have hrests : Rests { client with state := .disconnected, phase := .stopped }
      (seen ++ [.disconnected]) := h.rests_of_opening hphase rfl rfl
  rw [stop_of_connecting hstate]
  exact hrests.keeps (fun _ _ => rfl) rfl

/-- A client that reads a frame has read one more, whatever the frame holds. -/
theorem Keeps.takeFrame {client : Client} {seen : List Dealing} (h : client.Keeps seen)
    (hphase : client.phase = .reading) (text : String) :
    (client.takeFrame text).1.Keeps (seen ++ dealt (client.takeFrame text).2) := by
  have hread : ∀ after : Client, after.attempt = client.attempt →
      (after.phase = .reading ∨ ∃ id, after.phase = .consuming id) →
      after.Keeps (seen ++ [.read text]) := by
    intro after hattempt hafter
    refine h.advance hattempt ?_ fun number frames => ⟨frames ++ [text], fun _ => ?_⟩
    · rcases hafter with hafter | ⟨id, hafter⟩
      · rw [hafter, hphase]
      · rw [hafter, hphase]
        rfl
    · rcases hafter with hafter | ⟨id, hafter⟩
      · simp [hafter, hphase, underway]
      · simp [hafter, hphase, underway]
  rw [Client.takeFrame]
  split
  · next report _ => exact hread _ rfl (Or.inr ⟨report.id, rfl⟩)
  · exact hread _ rfl (Or.inl hphase)
  · exact hread _ rfl (Or.inl hphase)

/-- A client that has read its last frame starts to close the connection. -/
theorem Keeps.beginClose {client : Client} {seen : List Dealing} (h : client.Keeps seen)
    (hphase : client.phase = .reading) (reason : StreamEnd) :
    (client.beginClose reason).1.Keeps (seen ++ dealt (client.beginClose reason).2) := by
  refine h.advance rfl (by rw [hphase]; rfl) fun number frames => ⟨frames, ?_⟩
  rintro rfl
  rw [hphase]
  rfl

/-- A client that has closed its connection rests, and then stops, starts an attempt, or
waits. -/
theorem Keeps.afterClose {client : Client} {seen : List Dealing} (h : client.Keeps seen)
    {reason : StreamEnd} (hphase : client.phase = .closing reason)
    (hstate : client.state = .connected) :
    (client.afterClose reason).1.Keeps
      (seen ++ (.closed client.attempt :: dealt (client.afterClose reason).2)) := by
  have hne : client.state ≠ .disconnected := by rw [hstate]; decide
  -- the closing is over and published before anything else is done
  have hrests : Rests { client with state := .disconnected }
      (seen ++ [.closed client.attempt, .disconnected]) := h.rests_of_closing hphase rfl rfl
  have hwait : Keeps { client with state := .disconnected, phase := .waiting 0 }
      (seen ++ [.closed client.attempt, .disconnected]) :=
    Rests.keeps ⟨rfl, hrests.account⟩ (fun _ _ => rfl) rfl
  have hthen : ∀ moved : Client × List ClientEvent,
      moved.1.Keeps (seen ++ [.closed client.attempt, .disconnected] ++ dealt moved.2) →
      moved.1.Keeps (seen ++ (.closed client.attempt ::
        dealt ([.changed .disconnected] ++ .lost reason :: moved.2))) := by
    intro moved hmoved
    rw [List.append_assoc] at hmoved
    exact hmoved
  rw [Client.afterClose, publish_of_ne hne]
  cases reason with
  | cancelled => exact hthen _ hrests.stop
  | forced => exact hthen _ hrests.beginAttempt
  | closed => exact hthen (_, []) (by rw [dealt_nil, List.append_nil]; exact hwait)
  | failed error => exact hthen (_, []) (by rw [dealt_nil, List.append_nil]; exact hwait)

/-- Only the end of a closing is the end of one. -/
theorem closed?_eq_none (client : Client) {move : ClientMove} (h : move ≠ .closed) :
    client.closed? move = none := by
  unfold closed?
  split
  · exact absurd rfl h
  · rfl

/-- What is done when a connection is closed. -/
theorem Keeps.closed {client : Client} {seen : List Dealing} (h : client.Keeps seen)
    (hsettled : client.state = client.phase.state) :
    (client.step .closed).1.Keeps (seen ++ client.dealingsOf .closed) := by
  cases hphase : client.phase with
  | closing reason =>
      simp only [dealingsOf, Client.step, closed?, hphase]
      exact h.afterClose hphase (by rw [hsettled, hphase]; rfl)
  | _ =>
      simp only [dealingsOf, Client.step, closed?, hphase]
      exact h.stay rfl rfl fun _ _ => rfl

/-- **What is done in a move goes on with the account.** -/
theorem Keeps.step {client : Client} {seen : List Dealing} (h : client.Keeps seen)
    (hsettled : client.state = client.phase.state) (move : ClientMove) :
    (client.step move).1.Keeps (seen ++ client.dealingsOf move) := by
  by_cases hclosed : move = .closed
  · rw [hclosed]
    exact h.closed hsettled
  · rw [dealingsOf, client.closed?_eq_none hclosed]
    show (client.step move).1.Keeps (seen ++ dealt (client.step move).2)
    -- a client in a phase is in the state of the phase
    have hin {phase : Phase} (hphase : client.phase = phase) : client.state = phase.state :=
      hphase ▸ hsettled
    have hidle {phase : Phase} (hphase : client.phase = phase)
        (hstate : phase.state = .disconnected)
        (hunderway : ∀ number frames, underway number frames phase = [])
        (hnone : unfinished phase = 0) : client.Rests seen :=
      h.rests ((hin hphase).trans hstate) (by rw [hphase]; exact hunderway)
        (by rw [hphase]; exact hnone)
    have hreading (hreads : client.readsNext = true) : client.phase = .reading :=
      (client.readsNext_iff.mp hreads).1
    have htakes := takes_step client move
    generalize client.step move = moved at htakes
    cases htakes with
    | nothing | request | cancel => exact h.stay rfl rfl fun _ _ => rfl
    | start hphase => exact (hidle hphase rfl (fun _ _ => rfl) rfl).beginAttempt
    | wake hphase => exact (hidle hphase rfl (fun _ _ => rfl) rfl).beginAttempt
    | opened hphase => exact h.takeConnection hphase (hin hphase)
    | refused hphase => exact h.takeRefusal hphase (hin hphase) _
    | frame hreads => exact h.takeFrame (hreading hreads) _
    | peerClosed hreads => exact h.beginClose (hreading hreads) _
    | readFailed hreads => exact h.beginClose (hreading hreads) _
    | consumed hphase =>
        exact h.stay rfl (by rw [hphase]; rfl) fun _ _ => by rw [hphase]; rfl
    | panicked hphase =>
        exact h.stay rfl (by rw [hphase]; rfl) fun _ _ => by rw [hphase]; rfl
    | closed => exact absurd rfl hclosed
    | elapse hmillis =>
        simp only [Client.elapse]
        split
        · next hphase => exact h.stay rfl (by rw [hphase]; rfl) fun _ _ => by rw [hphase]; rfl
        · exact h.stay rfl rfl fun _ _ => rfl
    | obeyReading hphase =>
        have hforget : Keeps { client with requested := false } seen := h
        exact hforget.beginClose hphase _
    | obeyWaiting hphase =>
        have hrests := hidle hphase rfl (fun _ _ => rfl) rfl
        have hforget : Rests { client with requested := false } seen :=
          ⟨hrests.state, hrests.account⟩
        exact hforget.beginAttempt
    | quitOpening hphase => exact h.stop_of_opening hphase (hin hphase)
    | quitReading hphase => exact h.beginClose hphase _
    | quitWaiting hphase => exact (hidle hphase rfl (fun _ _ => rfl) rfl).stop

/-- What is done in moves goes on with the account. -/
theorem Keeps.run {client : Client} {seen : List Dealing} (h : client.Keeps seen)
    (hsettled : client.state = client.phase.state) (moves : List ClientMove) :
    (client.run moves).1.Keeps (seen ++ client.dealings moves) := by
  induction moves generalizing client seen with
  | nil => simpa [Client.run, dealings] using h
  | cons move moves ih =>
      have hlater := ih (h.step hsettled move) (proceeds_step hsettled move).settled
      simpa only [Client.run, dealings, List.append_assoc] using hlater

/-- What has been done in an attempt is how the account of one with a connection begins. -/
theorem underway_begins (number : Nat) (frames : List String) (phase : Phase) :
    underway number frames phase <+: (Attempt.connected frames).dealings number := by
  cases phase with
  | opening => exact ⟨_, rfl⟩
  | reading => exact List.prefix_append _ _
  | consuming id => exact List.prefix_append _ _
  | closing reason => exact ⟨[.closed number, .disconnected], by simp [underway, Attempt.dealings]⟩
  | _ => exact List.nil_prefix

/-- A client that has not finished an attempt is in the one after those that are over. -/
theorem unfinished_eq_one {phase : Phase} (h : unfinished phase ≠ 0) : unfinished phase = 1 := by
  cases phase with
  | idle | waiting | stopped => exact absurd rfl h
  | _ => rfl

/-- A client that has finished all attempts has done nothing in another. -/
theorem underway_eq_nil {phase : Phase} (h : unfinished phase = 0) (number : Nat)
    (frames : List String) : underway number frames phase = [] := by
  cases phase with
  | idle | waiting | stopped => rfl
  | _ => cases h

/-- What has been done is the beginning of an account of attempts, and all of it once the client has
stopped. -/
theorem Keeps.exists_record {client : Client} {seen : List Dealing} (h : client.Keeps seen) :
    ∃ attempts, seen <+: record attempts
      ∧ (client.phase = .stopped → seen = record attempts) := by
  obtain ⟨attempts, frames, rfl, hcount⟩ := h
  by_cases hover : unfinished client.phase = 0
  · rw [underway_eq_nil hover, List.append_nil]
    exact ⟨attempts, List.prefix_refl _, fun _ => rfl⟩
  · refine ⟨attempts ++ [.connected frames], ?_, ?_⟩
    · rw [record_concat, ← unfinished_eq_one hover, ← hcount]
      exact (List.prefix_append_right_inj _).mpr (underway_begins _ _ _)
    · intro hstopped
      rw [hstopped] at hover
      exact absurd rfl hover

/-! ## The discipline -/

/-- **A client has one connection at a time, and closes each that it gets.**  What it does about
connections in a run is the beginning of an account of attempts, in which a connection is closed
once, after the last frame has been read from it, before it is published that there is none, and
before the next attempt; it is the whole of such an account when the client has stopped.  At no
point is more than one connection open, and none is when it has stopped.  After its cancellation
no attempt is announced or started, and no frame is read. -/
theorem connections_of_run (delay : Nat) (moves : List ClientMove) :
    let client := ((ofDelay delay).run moves).1
    let seen := (ofDelay delay).dealings moves
    (∃ attempts, seen <+: record attempts ∧ (client.phase = .stopped → seen = record attempts)) ∧
    (∀ earlier, earlier <+: seen → (Dealing.stillOpen earlier).length ≤ 1) ∧
    (client.phase = .stopped → Dealing.stillOpen seen = []) ∧
    (client.cancelled = true → ∀ later, ∀ event ∈ events client later,
      event.isSeeking = false ∧ event.read? = none) := by
  intro client seen
  have hempty : (ofDelay delay).Keeps [] := ⟨[], [], rfl, rfl⟩
  have hkeeps : client.Keeps seen := hempty.run rfl moves
  obtain ⟨attempts, hbegins, hwhole⟩ := hkeeps.exists_record
  refine ⟨⟨attempts, hbegins, hwhole⟩, ?_, ?_, fun hcancelled => calm_events hcancelled⟩
  · intro earlier hearlier
    exact length_stillOpen_le (hearlier.trans hbegins)
  · intro hstopped
    rw [hwhole hstopped]
    exact stillOpen_recordAfter 0 attempts

/-- A client that reads a frame, and is asked to reconnect and cancelled while its connection is
open, closes the connection and is quiet from then on. -/
theorem connections_of_request_and_cancellation :
    let moves : List ClientMove :=
      [.start, .opened, .frame "\x7b\x7d", .request, .cancel, .quit, .closed]
    let client := ((ofDelay 5).run moves).1
    (ofDelay 5).dealings moves = [.attempted 1, .opened 1, .read "\x7b\x7d", .closing 1, .closed 1,
        .disconnected] ∧
      client.phase = .stopped ∧ client.cancelled = true ∧
      Dealing.stillOpen ((ofDelay 5).dealings moves) = [] ∧
      ∀ later, ∀ event ∈ events client later, event.isSeeking = false ∧ event.read? = none := by
  intro moves client
  obtain ⟨-, -, hnone, hcalm⟩ := connections_of_run 5 moves
  have hstopped : client.phase = .stopped := rfl
  have hcancelled : client.cancelled = true := rfl
  exact ⟨rfl, hstopped, hcancelled, hnone hstopped, hcalm hcancelled⟩

end Client

end ReportRelay
