/-
# When a client makes its attempts

After a failed attempt, or the end of a connection that nobody has asked for, a client waits, and
`Resumes` tells what happens then: the next attempt starts when the delay is over, exactly, unless
the client is called or cancelled.  `Turnout` tells what happens after the beginning of an attempt.

Both are shown for what a client does from such a moment on (`Pauses.resumes`,
`turnout_of_opening`), and taken at each such moment of a run in `delays_of_run`.
-/
import Mathlib.Algebra.Ring.Nat
import ReportRelay.Proofs.Client.Timeline

namespace ReportRelay

namespace Client

variable {client : Client}

/-! ## Waiting for the next attempt -/

/-- An attempt of a number starts at a time. -/
def starts (time number : Nat) : List (Nat × Happening) :=
  [(time, .seen (.changed .connecting)), (time, .seen (.attempted number))]

/-- What happens after the attempt of a number, or its connection, has ended at a time with a
setback, up to the next attempt or the end of the run.  The flag tells whether the client has been
called since the attempt or the connection began. -/
inductive Resumes (delay time number : Nat) (last : Client) : Bool → List (Nat × Happening) → Prop
  /-- The client is called. -/
  | call {called : Bool} {now : Nat} {later : List (Nat × Happening)}
      (h : Resumes delay time number last true later) :
      Resumes delay time number last called ((now, .called) :: later)
  /-- The run ends before the delay is over. -/
  | waits {called : Bool} {elapsed : Nat} (hphase : last.phase = .waiting elapsed)
      (hclock : last.clock = time + elapsed) (helapsed : elapsed ≤ delay) :
      Resumes delay time number last called []
  /-- The next attempt starts when the delay is over. -/
  | punctual {called : Bool} (later : List (Nat × Happening)) :
      Resumes delay time number last called (starts (time + delay) (number + 1) ++ later)
  /-- It starts on a call, and not later than that. -/
  | hurried {now : Nat} (hnow : now ≤ time + delay) (later : List (Nat × Happening)) :
      Resumes delay time number last true
        ((now, .seen .hurried) :: (starts now (number + 1) ++ later))
  /-- The client is cancelled, and stops. -/
  | stops {called : Bool} {now : Nat} {later : List (Nat × Happening)}
      (hcancelled : last.cancelled = true) (hnone : NoAttempt later) :
      Resumes delay time number last called ((now, .seen .stopped) :: later)
  /-- It is cancelled, and stops on a call. -/
  | stopsOnCall {now : Nat} {later : List (Nat × Happening)} (hcancelled : last.cancelled = true)
      (hnone : NoAttempt later) :
      Resumes delay time number last true ((now, .seen .hurried) :: (now, .seen .stopped) :: later)

/-- A client has been waiting since a time. -/
structure Pauses (client : Client) (time elapsed : Nat) : Prop where
  phase : client.phase = .waiting elapsed
  state : client.state = .disconnected
  clock : client.clock = time + elapsed
  elapsed_le : elapsed ≤ client.delay

namespace Pauses

variable {time elapsed : Nat}

/-- Time that passes is time that the client has been waiting. -/
theorem elapse (h : Pauses client time elapsed) {millis : Nat}
    (hmillis : client.canElapse millis = true) :
    Pauses { client with clock := client.clock + millis, phase := .waiting (elapsed + millis) } time
      (elapsed + millis) := by
  simp only [canElapse, h.phase, Bool.and_eq_true, decide_eq_true_eq] at hmillis
  exact ⟨rfl, h.state, by rw [h.clock, Nat.add_assoc], hmillis.2⟩

/-- A cancelled client that stops makes no attempt. -/
theorem stop (h : Pauses client time elapsed) (hcancelled : client.cancelled = true) (called : Bool)
    (moves : List ClientMove) :
    Resumes client.delay time client.attempt (client.stop.1.run moves).1 called
      (stamp client.clock (client.stop.2.map .seen) ++ timeline client.stop.1 moves) := by
  have hstopped : client.stop.1.cancelled = true := (staysCalm_stop hcancelled).cancelled
  have hevents : client.stop.2 = [.stopped] := by rw [stop_of_disconnected h.state]
  rw [hevents]
  exact .stops (cancelled_run hstopped moves) (noAttempt_timeline hstopped moves)

/-- A client that wakes makes its attempt when the delay is over, or stops. -/
theorem wake (h : Pauses client time elapsed) (hdelay : client.delay ≤ elapsed) (called : Bool)
    (moves : List ClientMove) :
    Resumes client.delay time client.attempt (client.beginAttempt.1.run moves).1 called
      (stamp client.clock (client.beginAttempt.2.map .seen)
        ++ timeline client.beginAttempt.1 moves) := by
  by_cases hcancelled : client.cancelled = true
  · rw [beginAttempt, if_pos hcancelled]
    exact h.stop hcancelled called moves
  · have hclock : client.clock = time + client.delay := by
      rw [h.clock, Nat.le_antisymm h.elapsed_le hdelay]
    rw [beginAttempt_of_disconnected h.state hcancelled, hclock]
    exact .punctual _

/-- A client that takes a request makes its attempt then, or stops. -/
theorem obey (h : Pauses client time elapsed) (moves : List ClientMove) :
    let moved := beginAttempt { client with requested := false }
    Resumes client.delay time client.attempt (moved.1.run moves).1 true
      (stamp client.clock ((.hurried :: moved.2).map .seen) ++ timeline moved.1 moves) := by
  intro moved
  by_cases hcancelled : client.cancelled = true
  · have hstop : moved = Client.stop { client with requested := false } := if_pos hcancelled
    have hevents : moved.2 = [.stopped] := by rw [hstop, stop_of_disconnected (by exact h.state)]
    have hstopped : moved.1.cancelled = true := by
      rw [hstop]
      exact (staysCalm_stop (by exact hcancelled)).cancelled
    rw [hevents]
    exact .stopsOnCall (cancelled_run hstopped moves) (noAttempt_timeline hstopped moves)
  · have hnow : client.clock ≤ time + client.delay := by
      rw [h.clock]
      exact Nat.add_le_add_left h.elapsed_le time
    have hbegin := @beginAttempt_of_disconnected { client with requested := false } h.state
      hcancelled
    rw [show moved = _ from hbegin]
    exact .hurried hnow _

end Pauses

/-- **A client that waits makes its next attempt when the delay is over**, unless it is called or
cancelled. -/
theorem Pauses.resumes {time elapsed : Nat} (h : Pauses client time elapsed) {called : Bool}
    (hcalled : client.requested = true → called = true) (moves : List ClientMove) :
    Resumes client.delay time client.attempt (client.run moves).1 called
      (timeline client moves) := by
  induction moves generalizing client elapsed called with
  | nil => exact .waits h.phase h.clock h.elapsed_le
  | cons move moves ih =>
      have hnot {phase : Phase} (hphase : client.phase = phase)
          (hne : ∀ elapsed, phase ≠ .waiting elapsed) : False :=
        hne elapsed (hphase.symm.trans h.phase)
      have hreading (hphase : client.phase = .reading) : False := hnot hphase (by rintro _ ⟨⟩)
      by_cases hrequest : move = .request
      · subst hrequest
        rw [timeline_request]
        exact .call (@ih { client with requested := true } elapsed
          ⟨h.phase, h.state, h.clock, h.elapsed_le⟩ true fun _ => rfl)
      rw [timeline, run_cons, happenings_eq_seen hrequest fun hphase => (hreading hphase).elim]
      have htakes := takes_step client move
      generalize client.step move = moved at htakes
      cases htakes with
      | nothing => exact ih h hcalled
      | request => exact absurd rfl hrequest
      | cancel =>
          exact @ih { client with cancelled := true } elapsed
            ⟨h.phase, h.state, h.clock, h.elapsed_le⟩ called hcalled
      | start hphase | opened hphase | refused hphase | consumed hphase | panicked hphase
        | closed hphase | quitOpening hphase => exact (hnot hphase (by rintro _ ⟨⟩)).elim
      | obeyReading hphase | quitReading hphase => exact (hreading hphase).elim
      | frame hreads | peerClosed hreads | readFailed hreads =>
          exact (hreading (client.readsNext_iff.mp hreads).1).elim
      | elapse hmillis =>
          rw [elapse_of_waiting h.phase]
          exact ih (h.elapse hmillis) hcalled
      | wake hphase hdelay =>
          obtain rfl := Phase.waiting.inj (hphase.symm.trans h.phase)
          exact h.wake hdelay called moves
      | obeyWaiting _ hrequested =>
          rw [hcalled hrequested]
          exact h.obey moves
      | quitWaiting _ hcancelled => exact h.stop hcancelled called moves

/-- A client that begins to wait resumes its attempts. -/
theorem resumes_of_pausing {called : Bool} (hcalled : client.requested = true → called = true)
    (moves : List ClientMove) :
    Resumes client.delay client.clock client.attempt (client.pausing.run moves).1 called
      (timeline client.pausing moves) := by
  have hpauses : Pauses client.pausing client.clock 0 := ⟨rfl, rfl, rfl, Nat.zero_le _⟩
  exact hpauses.resumes hcalled moves

/-! ## Attempts under way -/

/-- What happens after the attempt of a number has begun, up to its end or that of the run.  The
flag tells whether the client has been called since then. -/
inductive Turnout (delay time number : Nat) (last : Client) : Bool → List (Nat × Happening) → Prop
  /-- The client is called. -/
  | call {called : Bool} {now : Nat} {later : List (Nat × Happening)}
      (h : Turnout delay time number last true later) :
      Turnout delay time number last called ((now, .called) :: later)
  /-- The run ends before the attempt. -/
  | pending {called : Bool} (hphase : last.phase = .opening) (hclock : time ≤ last.clock) :
      Turnout delay time number last called []
  /-- It fails. -/
  | fails {called : Bool} {now : Nat} {error : ClientError} {later : List (Nat × Happening)}
      (hnow : time ≤ now) (hlater : Resumes delay now number last called later) :
      Turnout delay time number last called
        ((now, .seen (.changed .disconnected)) :: (now, .seen (.refused number error)) :: later)
  /-- It brings a connection. -/
  | succeeds {called : Bool} {now : Nat} (hnow : time ≤ now) (later : List (Nat × Happening)) :
      Turnout delay time number last called
        ((now, .seen (.changed .connected)) :: (now, .seen (.opened number)) :: later)
  /-- The client is cancelled, and gives it up. -/
  | stops {called : Bool} {now : Nat} {later : List (Nat × Happening)}
      (hcancelled : last.cancelled = true) (hnone : NoAttempt later) :
      Turnout delay time number last called
        ((now, .seen (.changed .disconnected)) :: (now, .seen .stopped) :: later)

/-- **An attempt fails, brings a connection, or is given up on a cancellation.** -/
theorem turnout_of_opening {time : Nat} (hphase : client.phase = .opening)
    (hstate : client.state = .connecting) (htime : time ≤ client.clock) {called : Bool}
    (hcalled : client.requested = true → called = true) (moves : List ClientMove) :
    Turnout client.delay time client.attempt (client.run moves).1 called
      (timeline client moves) := by
  induction moves generalizing client called with
  | nil => exact .pending hphase htime
  | cons move moves ih =>
      have hnot {phase : Phase} (h : client.phase = phase) (hne : phase ≠ .opening) : False :=
        hne (h.symm.trans hphase)
      have hreading (h : client.phase = .reading) : False := hnot h (by rintro ⟨⟩)
      by_cases hrequest : move = .request
      · subst hrequest
        rw [timeline_request]
        exact .call (@ih { client with requested := true } hphase hstate htime true fun _ => rfl)
      rw [timeline, run_cons, happenings_eq_seen hrequest fun hphase => (hreading hphase).elim]
      have htakes := takes_step client move
      generalize client.step move = moved at htakes
      cases htakes with
      | nothing => exact ih hphase hstate htime hcalled
      | request => exact absurd rfl hrequest
      | cancel => exact @ih { client with cancelled := true } hphase hstate htime called hcalled
      | start h | wake h | obeyWaiting h | consumed h | panicked h | closed h | quitWaiting h =>
          exact (hnot h (by rintro ⟨⟩)).elim
      | obeyReading h | quitReading h => exact (hreading h).elim
      | frame hreads | peerClosed hreads | readFailed hreads =>
          exact (hreading (client.readsNext_iff.mp hreads).1).elim
      | opened =>
          rw [takeConnection_of_connecting hstate]
          exact .succeeds htime _
      | refused =>
          rw [takeRefusal_of_connecting hstate]
          exact .fails htime (resumes_of_pausing hcalled moves)
      | @elapse millis =>
          have helapse : client.elapse millis = { client with clock := client.clock + millis } := by
            simp only [elapse, hphase]
          rw [helapse]
          exact @ih { client with clock := client.clock + millis } hphase hstate
            (Nat.le_add_right_of_le htime) called hcalled
      | quitOpening _ hcancelled =>
          have hstopped : client.stop.1.cancelled = true := (staysCalm_stop hcancelled).cancelled
          have hevents : client.stop.2 = [.changed .disconnected, .stopped] := by
            rw [stop_of_connecting hstate]
          rw [hevents]
          exact .stops (cancelled_run hstopped moves) (noAttempt_timeline hstopped moves)

/-! ## Setbacks of a run -/

section Run

variable {delay : Nat} {moves : List ClientMove} {earlier later : List (Nat × Happening)}
  {time number : Nat}

/-- What a client remembers since a use of a request is a call. -/
theorem Sound.any_isCall {past since : List (Nat × Happening)} {began : Nat} {use : Happening}
    (h : Sound client ((past ++ (began, use) :: since).map Prod.snd)) (huse : use.isUse = true)
    (hrequested : client.requested = true) : (since.any fun told => told.2.isCall) = true := by
  have hsince := h.since_called hrequested
  rw [List.map_append, List.map_cons] at hsince
  obtain ⟨told, htold, hcalled⟩ := List.mem_map.mp (hsince.called_mem huse)
  exact List.any_eq_true.mpr ⟨told, htold, by rw [hcalled]; rfl⟩

/-- After a failed attempt a client resumes its attempts; it has only been called while that was
under way. -/
theorem resumes_of_refused {error : ClientError}
    (h : timeline (ofDelay delay) moves
      = earlier ++ (time, .seen (.refused number error)) :: later) :
    ∃ before began calls,
      earlier = before ++ (began, .seen (.attempted number)) :: calls
        ++ [(time, .seen (.changed .disconnected))] ∧
      (∀ told ∈ calls, told.2.isCall = true) ∧
      Resumes delay time number ((ofDelay delay).run moves).1
        (calls.any fun told => told.2.isCall) later := by
  obtain ⟨client, past, after, first, next, more, rfl, rfl, hsound, hbegun, hstage, rfl, rfl,
    hlast⟩ := exists_stage_of_timeline h
  obtain ⟨rfl, hending⟩ := hstage.ending rfl
  cases hending with
  | fails hphase =>
      obtain ⟨before, began, calls, rfl, hcalls⟩ := exists_time_of_since (hbegun hphase)
      refine ⟨before, began, calls, by rfl, fun told htold => by simpa using hcalls told htold, ?_⟩
      rw [hlast]
      exact resumes_of_pausing (hsound.any_isCall rfl) more

/-- What comes after a connection of a number is lost at a time for a reason, other than a
cancellation: the client waits for its next attempt, or starts it at once if the connection was torn
down on a request. -/
def Follows (delay time number : Nat) (last : Client) (called : Bool)
    (later : List (Nat × Happening)) : StreamEnd → Prop
  | .forced =>
    (∃ more, later = starts time (number + 1) ++ more) ∨
      (last.cancelled = true ∧ NoAttempt later)
  | _ => Resumes delay time number last called later

/-- After a connection is lost a client resumes its attempts, or makes the next one at once. -/
theorem follows_of_lost {reason : StreamEnd} (hreason : reason ≠ .cancelled)
    (h : timeline (ofDelay delay) moves = earlier ++ (time, .seen (.lost reason)) :: later) :
    ∃ before began number since,
      earlier = before ++ (began, .seen (.opened number)) :: since
        ++ [(time, .seen (.changed .disconnected))] ∧
      (∀ told ∈ since, told.2.isBorder = false) ∧
      Follows delay time number ((ofDelay delay).run moves).1
        (since.any fun told => told.2.isCall) later reason := by
  obtain ⟨client, past, after, first, next, more, rfl, rfl, hsound, -, hstage, rfl, rfl, hlast⟩ :=
    exists_stage_of_timeline h
  obtain ⟨rfl, hending⟩ := hstage.ending rfl
  -- the connection that is lost is the latest
  have hopened (hphase : client.phase = .closing reason) :
      Since [.seen (.opened client.attempt)] Happening.isBorder (past.map Prod.snd) := by
    obtain ⟨before, since, heq, hsince⟩ := hsound.connected (by rw [hphase]; rfl)
    exact ⟨before ++ [.seen (.changed .connected)], since, by simp [heq, connection], hsince⟩
  have hphase : client.phase = .closing reason := by
    cases hending with
    | loses hphase | restarts hphase | stops hphase => exact hphase
  obtain ⟨before, began, since, rfl, hsince⟩ := exists_time_of_since (hopened hphase)
  refine ⟨before, began, client.attempt, since, by rfl, hsince, ?_⟩
  rw [hlast]
  cases hending with
  | loses _ hforced =>
      have hresumes := resumes_of_pausing (hsound.any_isCall rfl) more
      cases reason with
      | cancelled => exact absurd rfl hreason
      | forced => exact absurd rfl hforced
      | closed | failed error => exact hresumes
  | restarts => exact Or.inl ⟨_, rfl⟩
  | stops _ _ hstops =>
      obtain ⟨rfl, hcancelled⟩ := hstops.resolve_left hreason
      refine Or.inr ⟨cancelled_run hcancelled more, List.forall_mem_cons.mpr ⟨rfl, ?_⟩⟩
      exact noAttempt_timeline hcancelled more

/-- An attempt that has begun has a turnout. -/
theorem turnout_of_attempted
    (h : timeline (ofDelay delay) moves
      = earlier ++ (time, .seen (.attempted number)) :: later) :
    Turnout delay time number ((ofDelay delay).run moves).1 false later := by
  obtain ⟨client, past, after, first, next, more, rfl, rfl, -, -, hstage, rfl, rfl, hlast⟩ :=
    exists_stage_of_timeline h
  obtain ⟨rfl, rfl, rfl⟩ := hstage.attempted
  rw [hlast]
  exact @turnout_of_opening client.attempting client.clock rfl rfl (Nat.le_refl _) false
    (by rintro ⟨⟩) more

/-! ## Attempts that fail one after the other -/

/-- What happens when attempts fail one after the other and none is made sooner than it has to be:
each takes so many milliseconds and fails with an error, and the next one starts after the delay. -/
def failures (delay : Nat) : Nat → Nat → List (Nat × ClientError) → List (Nat × Happening)
  | _, _, [] => []
  | number, began, (millis, error) :: more =>
    (began + millis, .seen (.changed .disconnected)) ::
      (began + millis, .seen (.refused number error)) ::
        (starts (began + millis + delay) (number + 1)
          ++ failures delay (number + 1) (began + millis + delay) more)

/-- Nobody calls the client, and no connection is opened. -/
def Unaided (told : List (Nat × Happening)) : Prop :=
  ∀ happening ∈ told, happening.2.isCall = false ∧ happening.2.isOpening = false

/-- What comes first, and is not what is looked for, comes before that. -/
theorem exists_tail {α : Type} {middle later rest : List α} {target head : α}
    (h : middle ++ target :: later = head :: rest) (hne : target ≠ head) :
    ∃ tail, middle = head :: tail ∧ tail ++ target :: later = rest := by
  cases middle with
  | nil => exact absurd (List.cons.inj h).1 hne
  | cons first tail =>
      obtain ⟨rfl, hrest⟩ := List.cons.inj h
      exact ⟨tail, rfl, hrest⟩

/-- A client that is not called until its next attempt starts it when the delay is over. -/
theorem Resumes.of_unaided {last : Client} {middle later : List (Nat × Happening)} {now next : Nat}
    (h : Resumes delay time number last false (middle ++ (now, .seen (.attempted next)) :: later))
    (hunaided : Unaided middle) :
    ∃ tail more, middle = (time + delay, .seen (.changed .connecting)) :: tail ∧
      tail ++ (now, .seen (.attempted next)) :: later
        = (time + delay, .seen (.attempted (number + 1))) :: more := by
  generalize hall : middle ++ (now, Happening.seen (.attempted next)) :: later = told at h
  cases h with
  | call =>
      obtain ⟨tail, rfl, -⟩ := exists_tail hall (by simp)
      cases (hunaided _ List.mem_cons_self).1
  | waits => simp at hall
  | punctual more =>
      obtain ⟨tail, rfl, hrest⟩ := exists_tail hall (by simp)
      exact ⟨tail, more, rfl, hrest⟩
  | stops _ hnone =>
      obtain ⟨tail, rfl, rfl⟩ := exists_tail hall (by simp)
      cases hnone (now, .seen (.attempted next)) (by simp)

/-- An attempt after which a client is not called until the next has failed, if it has brought no
connection; and the next one starts when the delay is over. -/
theorem Turnout.of_unaided {last : Client} {middle later : List (Nat × Happening)} {now next : Nat}
    (h : Turnout delay time number last false (middle ++ (now, .seen (.attempted next)) :: later))
    (hunaided : Unaided middle) :
    ∃ millis error tail more,
      middle = (time + millis, .seen (.changed .disconnected)) ::
        (time + millis, .seen (.refused number error)) ::
          (time + millis + delay, .seen (.changed .connecting)) :: tail ∧
      tail ++ (now, .seen (.attempted next)) :: later
        = (time + millis + delay, .seen (.attempted (number + 1))) :: more := by
  generalize hall : middle ++ (now, Happening.seen (.attempted next)) :: later = told at h
  cases h with
  | call =>
      obtain ⟨tail, rfl, -⟩ := exists_tail hall (by simp)
      cases (hunaided _ List.mem_cons_self).1
  | pending => simp at hall
  | @fails _ ended error _ hended hlater =>
      obtain ⟨tail, rfl, hrest⟩ := exists_tail hall (by simp)
      obtain ⟨tail, rfl, rfl⟩ := exists_tail hrest (by simp)
      have hunaided : Unaided tail := fun told htold => hunaided told (by simp [htold])
      obtain ⟨tail, more, rfl, hnext⟩ := hlater.of_unaided hunaided
      obtain ⟨millis, rfl⟩ := Nat.exists_eq_add_of_le hended
      exact ⟨millis, error, tail, more, rfl, hnext⟩
  | succeeds =>
      obtain ⟨tail, rfl, hrest⟩ := exists_tail hall (by simp)
      obtain ⟨tail, rfl, -⟩ := exists_tail hrest (by simp)
      cases (hunaided _ (List.mem_cons_of_mem _ List.mem_cons_self)).2
  | stops _ hnone =>
      obtain ⟨tail, rfl, hrest⟩ := exists_tail hall (by simp)
      obtain ⟨tail, rfl, rfl⟩ := exists_tail hrest (by simp)
      cases hnone (now, .seen (.attempted next)) (by simp)

/-- **Attempts that fail one after the other, while nobody calls the client, are separated by the
delay and what they take themselves.** -/
theorem failures_of_unaided {middle : List (Nat × Happening)} {now next : Nat}
    (h : timeline (ofDelay delay) moves
      = earlier ++ (time, .seen (.attempted number)) ::
          (middle ++ (now, .seen (.attempted next)) :: later))
    (hunaided : Unaided middle) :
    ∃ attempts, middle ++ [(now, .seen (.attempted next))] = failures delay number time attempts ∧
      next = number + attempts.length ∧
      now = time + (attempts.map Prod.fst).sum + attempts.length * delay := by
  -- by the attempts in between
  induction hlength : middle.length using Nat.strong_induction_on
    generalizing earlier time number middle with
  | _ length ih =>
      obtain ⟨millis, error, tail, more, rfl, hnext⟩ :=
        (turnout_of_attempted h).of_unaided hunaided
      cases tail with
      | nil =>
          obtain ⟨heq, rfl⟩ := List.cons.inj hnext
          cases heq
          exact ⟨[(millis, error)], rfl, rfl, by simp [Nat.add_assoc]⟩
      | cons head tail =>
          obtain ⟨rfl, rfl⟩ := List.cons.inj hnext
          have hrest : Unaided tail := fun told htold => hunaided told (by simp [htold])
          have hshorter : tail.length < length := by
            rw [← hlength]
            simp only [List.length_cons]
            omega
          let failed : List (Nat × Happening) :=
            [(time, .seen (.attempted number)), (time + millis, .seen (.changed .disconnected)),
              (time + millis, .seen (.refused number error)),
              (time + millis + delay, .seen (.changed .connecting))]
          obtain ⟨attempts, hattempts, hcount, htime⟩ :=
            @ih tail.length hshorter (earlier ++ failed) (time + millis + delay) (number + 1) tail
              (by rw [h, List.append_assoc]; rfl) hrest rfl
          refine ⟨(millis, error) :: attempts, ?_, ?_, ?_⟩
          · rw [failures, ← hattempts]
            rfl
          · rw [hcount, List.length_cons, Nat.add_right_comm, Nat.add_assoc]
          · rw [htime, List.map_cons, List.sum_cons, List.length_cons, Nat.succ_mul]
            omega

end Run

/-! ## The delay -/

/-- A client that has been waiting has done so for no longer than the delay. -/
def Patient (client : Client) : Prop :=
  ∀ elapsed, client.phase = .waiting elapsed → elapsed ≤ client.delay

/-- A client that does not wait is patient. -/
theorem patient_of_ne (h : ∀ elapsed, client.phase ≠ .waiting elapsed) : Patient client :=
  fun elapsed hphase => absurd hphase (h elapsed)

/-- A client that begins to wait is patient. -/
theorem patient_pausing (client : Client) : Patient client.pausing := by
  intro elapsed hphase
  rw [← Phase.waiting.inj hphase]
  exact Nat.zero_le _

/-- A client that begins an attempt, or stops, does not wait. -/
theorem patient_beginAttempt (client : Client) : Patient client.beginAttempt.1 := by
  refine patient_of_ne fun elapsed => ?_
  unfold beginAttempt
  split
  · rintro ⟨⟩
  · simp

/-- A client that has closed its connection has only begun to wait. -/
theorem patient_afterClose (client : Client) (reason : StreamEnd) :
    Patient (client.afterClose reason).1 := by
  rw [afterClose, publish_eq]
  cases reason with
  | cancelled => exact patient_of_ne (by rintro _ ⟨⟩)
  | forced => exact patient_beginAttempt _
  | closed | failed error => exact patient_pausing client

/-- A client stays patient in every move. -/
theorem Patient.step (h : Patient client) (move : ClientMove) : Patient (client.step move).1 := by
  have htakes := takes_step client move
  generalize client.step move = moved at htakes
  cases htakes with
  | nothing | request | cancel => exact h
  | start | wake | obeyWaiting => exact patient_beginAttempt _
  | opened => exact patient_of_ne (by simp [takeConnection])
  | refused =>
      rw [takeRefusal, publish_eq]
      exact patient_pausing client
  | frame hreads =>
      have hreading := (client.readsNext_iff.mp hreads).1
      rw [takeFrame]
      split
      · exact patient_of_ne (by rintro _ ⟨⟩)
      · exact h
      · exact h
  | peerClosed | readFailed | consumed | panicked => exact patient_of_ne (by rintro _ ⟨⟩)
  | obeyReading | quitReading | quitOpening | quitWaiting => exact patient_of_ne (by rintro _ ⟨⟩)
  | closed => exact patient_afterClose client _
  | elapse hmillis =>
      cases hphase : client.phase with
      | waiting elapsed =>
          simp only [canElapse, hphase, Bool.and_eq_true, decide_eq_true_eq] at hmillis
          rw [elapse_of_waiting hphase]
          intro later hlater
          rw [← Phase.waiting.inj hlater]
          exact hmillis.2
      | _ =>
          simp only [elapse, hphase]
          exact patient_of_ne (by simp)

/-- **A client never waits for longer than the delay.** -/
theorem Patient.run (h : Patient client) (moves : List ClientMove) :
    Patient (client.run moves).1 := by
  induction moves generalizing client with
  | nil => exact h
  | cons move moves ih => exact ih (h.step move)

/-- **The delay is fixed.**  After an attempt has failed, or a connection was closed by the peer or
has failed, the next attempt starts when the delay is over, exactly; only a call of the client since
that attempt or connection began makes it start before, and only a cancellation keeps it from
starting.  After a connection was torn down on a request the next attempt starts at once.  Attempts
that fail one after the other, however many, are separated by the delay and what they take.

A client that waits is not kept from its next attempt: it can let the rest of the delay pass, and
no more, and starts the attempt then; if it has been called it lets no time pass, and can start the
attempt at once. -/
theorem delays_of_run (delay : Nat) (moves : List ClientMove) :
    let client := ((ofDelay delay).run moves).1
    let told := timeline (ofDelay delay) moves
    (∀ earlier time number error later,
      told = earlier ++ (time, .seen (.refused number error)) :: later →
      ∃ before began calls,
        earlier = before ++ (began, .seen (.attempted number)) :: calls
          ++ [(time, .seen (.changed .disconnected))] ∧
        (∀ call ∈ calls, call.2.isCall = true) ∧
        Resumes delay time number client (calls.any fun call => call.2.isCall) later) ∧
    (∀ earlier time reason later, told = earlier ++ (time, .seen (.lost reason)) :: later →
      reason ≠ .cancelled → ∃ before began number since,
        earlier = before ++ (began, .seen (.opened number)) :: since
          ++ [(time, .seen (.changed .disconnected))] ∧
        (∀ happening ∈ since, happening.2.isBorder = false) ∧
        Follows delay time number client (since.any fun call => call.2.isCall) later reason) ∧
    (∀ earlier began number middle time next later,
      told = earlier ++ (began, .seen (.attempted number)) ::
        (middle ++ (time, .seen (.attempted next)) :: later) → Unaided middle →
      ∃ attempts,
        middle ++ [(time, .seen (.attempted next))] = failures delay number began attempts ∧
        next = number + attempts.length ∧
        time = began + (attempts.map Prod.fst).sum + attempts.length * delay) ∧
    (∀ elapsed, client.phase = .waiting elapsed → client.cancelled = false →
      elapsed ≤ delay ∧ (client.requested = false →
        (client.run [.elapse (delay - elapsed), .wake]).2
          = client.nextAttempt (client.clock + (delay - elapsed))) ∧
      (client.requested = true → (∀ millis, client.canElapse millis = false) ∧
        (client.run [.obey]).2 = (client.clock, .hurried) :: client.nextAttempt client.clock)) := by
  intro client told
  refine ⟨fun earlier time number error later => resumes_of_refused,
    fun earlier time reason later htold hreason => follows_of_lost hreason htold,
    fun earlier began number middle time next later => failures_of_unaided,
    fun elapsed hphase hcancelled => ?_⟩
  have hdelay : client.delay = delay := run_delay _ _
  have hstate : client.state = .disconnected := by
    have hsettled : client.state = client.phase.state := (proceeds_run rfl moves).settled
    rw [hsettled, hphase, Phase.state]
  have hpatient : Patient client := (patient_of_ne (by rintro _ ⟨⟩)).run moves
  have helapsed : elapsed ≤ client.delay := hpatient elapsed hphase
  refine ⟨hdelay ▸ helapsed, fun hrequested => ?_,
    fun hrequested => ⟨canElapse_of_requested hphase hrequested, ?_⟩⟩
  · rw [← hdelay]
    exact run_elapse_wake hphase hstate hcancelled hrequested helapsed
  · exact run_obey hphase hstate hcancelled hrequested

/-- With a delay of 5 ms two attempts fail, after 2 ms and 1 ms.  The third one brings a connection,
which the peer closes.  The client is called 1 ms after that and makes the fourth attempt at once,
which fails as well; it has been waiting for 2 ms when the run ends. -/
theorem delays_of_failures_and_call :
    let moves : List ClientMove := [.start, .elapse 2, .refused (.connect ""), .elapse 5, .wake,
      .elapse 1, .refused (.connect ""), .elapse 5, .wake, .elapse 1, .opened, .elapse 3,
      .peerClosed, .closed, .elapse 1, .request, .obey, .elapse 4, .refused (.connect ""),
      .elapse 2]
    let client := ((ofDelay 5).run moves).1
    let told : List (Nat × Happening) := [(0, .seen (.changed .connecting)),
      (0, .seen (.attempted 1)), (2, .seen (.changed .disconnected)),
      (2, .seen (.refused 1 (.connect ""))), (7, .seen (.changed .connecting)),
      (7, .seen (.attempted 2)), (8, .seen (.changed .disconnected)),
      (8, .seen (.refused 2 (.connect ""))), (13, .seen (.changed .connecting)),
      (13, .seen (.attempted 3)), (14, .seen (.changed .connected)), (14, .seen (.opened 3)),
      (17, .seen (.closing 3)), (17, .seen (.changed .disconnected)), (17, .seen (.lost .closed)),
      (18, .called), (18, .seen .hurried), (18, .seen (.changed .connecting)),
      (18, .seen (.attempted 4)), (22, .seen (.changed .disconnected)),
      (22, .seen (.refused 4 (.connect "")))]
    timeline (ofDelay 5) moves = told ∧
      (∃ attempts, (told.take 10).drop 2 = failures 5 1 0 attempts ∧ 3 = 1 + attempts.length ∧
        13 = 0 + (attempts.map Prod.fst).sum + attempts.length * 5) ∧
      (∃ number flag, Follows 5 17 number client flag (told.drop 15) .closed) ∧
      (∃ flag, Resumes 5 22 4 client flag []) ∧
      client.phase = .waiting 2 ∧
      (client.run [.elapse 3, .wake]).2 = client.nextAttempt 27 := by
  intro moves client told
  obtain ⟨hrefused, hlost, hfailed, hwaiting⟩ := delays_of_run 5 moves
  have htold : timeline (ofDelay 5) moves = told := rfl
  have hunaided : Unaided ((told.take 9).drop 2) := by
    unfold Unaided
    decide
  have hattempts := hfailed (told.take 1) 0 1 _ 13 3 (told.drop 10) (htold.trans rfl) hunaided
  obtain ⟨-, -, number, since, -, -, hfollows⟩ :=
    hlost (told.take 14) 17 .closed (told.drop 15) (htold.trans rfl) (by simp)
  obtain ⟨-, -, calls, -, -, hresumes⟩ :=
    hrefused (told.take 20) 22 4 (.connect "") [] (htold.trans rfl)
  have hphase : client.phase = .waiting 2 := rfl
  have hclock : client.clock = 24 := rfl
  have hnext := (hwaiting 2 hphase rfl).2.1 rfl
  rw [hclock] at hnext
  exact ⟨htold, hattempts, ⟨number, _, hfollows⟩, ⟨_, hresumes⟩, hphase, hnext⟩

end Client

end ReportRelay
