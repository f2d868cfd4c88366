/-
# Requests while a connection is being opened

A request that is made while an attempt is under way is satisfied by that attempt, if it brings a
connection.  Two runs are compared that make the same moves, except that in the second a
reconnection is also requested at moments when the client of the first is connecting.  The clients
stay abreast of each other (`Abreast`), and do the same at the same times, as long as no attempt
fails of which only the second client remembers a request (`calls_in_flight`).

An attempt that fails leaves the request, which then cuts the delay short: this is what the
condition excludes, and all that it excludes.
-/
import ReportRelay.Proofs.Client.States

namespace ReportRelay

/-! ## Runs with more calls -/

/-- Tells whether an event is about a connection, and not only a note that a request has been
taken or that the client has stopped. -/
def ClientEvent.isDeed : ClientEvent → Bool
  | .hurried => false
  | .stopped => false
  | _ => true

/-- Tells whether an attempt fails. -/
def ClientMove.isRefusal : ClientMove → Bool
  | .refused _ => true
  | _ => false

namespace Client

/-- What a client does about its connections, with the times. -/
def deeds (seen : List (Nat × ClientEvent)) : List (Nat × ClientEvent) :=
  seen.filter fun event => event.2.isDeed

/-- The moves of a plan, in which `none` is a call that may be added. -/
def withoutCalls (plan : List (Option ClientMove)) : List ClientMove := plan.filterMap id

/-- The moves of a plan and the calls that may be added. -/
def withCalls (plan : List (Option ClientMove)) : List ClientMove :=
  plan.map fun move => move.getD .request

/-- Tells whether the client is connecting whenever a call is to be added. -/
def callsConnecting (client : Client) : List (Option ClientMove) → Bool
  | [] => true
  | none :: plan => client.state = .connecting && callsConnecting client plan
  | some move :: plan => callsConnecting (client.step move).1 plan

/-- Tells whether a failed attempt leaves no request to the called client that the other client
does not remember, unless that is cancelled. -/
def leavesNone (client called : Client) (move : ClientMove) : Bool :=
  !move.isRefusal || !called.requested || client.requested || client.cancelled

/-- Tells whether no attempt of a plan fails and leaves a request to the called client only. -/
def callsSatisfied (client called : Client) : List (Option ClientMove) → Bool
  | [] => true
  | none :: plan => callsSatisfied client (called.step .request).1 plan
  | some move :: plan =>
    leavesNone client called move && callsSatisfied (client.step move).1 (called.step move).1 plan

@[simp] theorem deeds_append (seen later : List (Nat × ClientEvent)) :
    deeds (seen ++ later) = deeds seen ++ deeds later :=
  List.filter_append _ _

/-- What is done in a move has its time. -/
theorem deeds_map (clock : Nat) (events : List ClientEvent) :
    deeds (events.map fun event => (clock, event))
      = (events.filter ClientEvent.isDeed).map fun event => (clock, event) :=
  List.filter_map

/-! ## Clients without a future -/

/-- A client that is cancelled, and waits for its next attempt or has stopped. -/
structure Doomed (client : Client) : Prop where
  cancelled : client.cancelled = true
  state : client.state = .disconnected
  phase : client.phase = .stopped ∨ ∃ elapsed, client.phase = .waiting elapsed

/-- What comes of a move of such a client: it stays one, and does nothing. -/
structure StaysDoomed (moved : Client × List ClientEvent) : Prop where
  doomed : Doomed moved.1
  idle : moved.2.filter ClientEvent.isDeed = []

/-- A cancelled client without a connection does nothing when it stops. -/
theorem staysDoomed_stop {client : Client} (hcancelled : client.cancelled = true)
    (hstate : client.state = .disconnected) : StaysDoomed client.stop := by
  rw [stop_of_disconnected hstate]
  exact ⟨⟨hcancelled, hstate, Or.inl rfl⟩, rfl⟩

/-- Nor does it when it comes to make an attempt. -/
theorem staysDoomed_beginAttempt {client : Client} (hcancelled : client.cancelled = true)
    (hstate : client.state = .disconnected) : StaysDoomed client.beginAttempt := by
  rw [beginAttempt, if_pos hcancelled]
  exact staysDoomed_stop hcancelled hstate

/-- **A client that is cancelled and has no connection does nothing in any move.** -/
theorem Doomed.step {client : Client} (h : Doomed client) (move : ClientMove) :
    StaysDoomed (client.step move) := by
  have hnot {phase : Phase} (hphase : client.phase = phase) (hstopped : phase ≠ .stopped)
      (hwaiting : ∀ elapsed, phase ≠ .waiting elapsed) : False := by
    rcases h.phase with heq | ⟨elapsed, heq⟩
    · exact hstopped (hphase.symm.trans heq)
    · exact hwaiting elapsed (hphase.symm.trans heq)
  have hreading (hphase : client.phase = .reading) : False :=
    hnot hphase (by rintro ⟨⟩) (by rintro _ ⟨⟩)
  have htakes := takes_step client move
  generalize client.step move = moved at htakes
  cases htakes with
  | nothing => exact ⟨h, rfl⟩
  | request => exact ⟨⟨h.cancelled, h.state, h.phase⟩, rfl⟩
  | cancel => exact ⟨⟨rfl, h.state, h.phase⟩, rfl⟩
  | start hphase | opened hphase | refused hphase | quitOpening hphase =>
      exact (hnot hphase (by rintro ⟨⟩) (by rintro _ ⟨⟩)).elim
  | consumed hphase | panicked hphase | closed hphase =>
      exact (hnot hphase (by rintro ⟨⟩) (by rintro _ ⟨⟩)).elim
  | frame hreads | peerClosed hreads | readFailed hreads =>
      exact (hreading (client.readsNext_iff.mp hreads).1).elim
  | obeyReading hphase | quitReading hphase => exact (hreading hphase).elim
  | elapse hmillis =>
      rcases h.phase with heq | ⟨elapsed, heq⟩
      · simp only [elapse, heq]
        exact ⟨⟨h.cancelled, h.state, Or.inl rfl⟩, rfl⟩
      · simp [canElapse, heq, h.cancelled] at hmillis
  | wake => exact staysDoomed_beginAttempt h.cancelled h.state
  | obeyWaiting =>
      have hbegin :=
        @staysDoomed_beginAttempt { client with requested := false } h.cancelled h.state
      exact ⟨hbegin.doomed, hbegin.idle⟩
  | quitWaiting => exact staysDoomed_stop h.cancelled h.state

/-! ## Clients abreast of each other -/

/-- A client and one that has been called more often while it was connecting: they are the same,
or the call is remembered while the connection is being opened, or neither has a future. -/
inductive Abreast (client : Client) : Client → Prop
  /-- They are the same. -/
  | same : Abreast client client
  /-- A connection is being opened, and the one remembers that it was called. -/
  | called (hphase : client.phase = .opening) : Abreast client { client with requested := true }
  /-- Neither does anything any more. -/
  | doomed {other : Client} (h : Doomed client) (hother : Doomed other) : Abreast client other

variable {client called : Client}

/-- Clients abreast of each other are in the same state. -/
theorem Abreast.state_eq (h : Abreast client called) : called.state = client.state := by
  cases h with
  | same | called => rfl
  | doomed h hother => rw [h.state, hother.state]

/-- A connecting client stays abreast of the other when that is called. -/
theorem Abreast.call (h : Abreast client called) (hsettled : client.state = client.phase.state)
    (hstate : client.state = .connecting) : Abreast client (called.step .request).1 := by
  have hphase : client.phase = .opening := by
    rw [hsettled] at hstate
    cases hopening : client.phase with
    | opening => rfl
    | _ =>
        rw [hopening] at hstate
        cases hstate
  cases h with
  | same | called => exact .called hphase
  | doomed h =>
      rw [h.state] at hstate
      cases hstate

/-- What a move does to clients abreast of each other: they stay so, and do the same. -/
structure StaysAbreast (moved others : Client × List ClientEvent) : Prop where
  abreast : Abreast moved.1 others.1
  same : others.2.filter ClientEvent.isDeed = moved.2.filter ClientEvent.isDeed

/-- A client whose attempt is under way does what it does whether it has been called or not, unless
the attempt fails and only the call leaves a request. -/
theorem staysAbreast_step_of_opening (hphase : client.phase = .opening)
    (hstate : client.state = .connecting) {move : ClientMove}
    (hleaves : leavesNone client { client with requested := true } move = true) :
    StaysAbreast (client.step move) (step { client with requested := true } move) := by
  obtain ⟨delay, phase, state, attempt, requested, cancelled, clock⟩ := client
  obtain rfl : phase = .opening := hphase
  obtain rfl : state = .connecting := hstate
  cases move with
  | request => exact ⟨.same, rfl⟩
  | opened => exact ⟨.same, rfl⟩
  | refused error =>
      cases requested with
      | true => exact ⟨.same, rfl⟩
      | false =>
          obtain rfl : cancelled = true := hleaves
          exact ⟨.doomed ⟨rfl, rfl, Or.inr ⟨0, rfl⟩⟩ ⟨rfl, rfl, Or.inr ⟨0, rfl⟩⟩, rfl⟩
  | elapse millis =>
      cases cancelled with
      | true => exact ⟨.called rfl, rfl⟩
      | false => exact ⟨@Abreast.called ⟨_, _, _, _, _, _, _⟩ rfl, rfl⟩
  | quit =>
      cases cancelled with
      | true => exact ⟨.doomed ⟨rfl, rfl, Or.inl rfl⟩ ⟨rfl, rfl, Or.inl rfl⟩, rfl⟩
      | false => exact ⟨.called rfl, rfl⟩
  | cancel => exact ⟨@Abreast.called ⟨_, _, _, _, _, _, _⟩ rfl, rfl⟩
  | _ => exact ⟨.called rfl, rfl⟩

/-- **Clients stay abreast of each other in a move, and do the same at the same time**, unless it
is a failed attempt that leaves a request to one of them only. -/
theorem Abreast.step (h : Abreast client called) (hsettled : client.state = client.phase.state)
    {move : ClientMove} (hleaves : leavesNone client called move = true) :
    Abreast (client.step move).1 (called.step move).1 ∧
      deeds ((called.step move).2.map fun event => (called.clock, event))
        = deeds ((client.step move).2.map fun event => (client.clock, event)) := by
  rw [deeds_map, deeds_map]
  cases h with
  | same => exact ⟨.same, rfl⟩
  | called hphase =>
      have hstate : client.state = .connecting := by rw [hsettled, hphase, Phase.state]
      obtain ⟨habreast, hsame⟩ := staysAbreast_step_of_opening hphase hstate hleaves
      exact ⟨habreast, by rw [hsame]⟩
  | doomed h hother =>
      have hstep := h.step move
      have hothers := hother.step move
      exact ⟨.doomed hstep.doomed hothers.doomed, by rw [hstep.idle, hothers.idle]; rfl⟩

/-- Clients abreast of each other stay so in a plan in which the calls are satisfied, and do the
same at the same times. -/
theorem Abreast.run {plan : List (Option ClientMove)} (h : Abreast client called)
    (hsettled : client.state = client.phase.state) (hcalls : callsConnecting client plan = true)
    (hsatisfied : callsSatisfied client called plan = true) :
    Abreast (client.run (withoutCalls plan)).1 (called.run (withCalls plan)).1 ∧
      deeds (called.run (withCalls plan)).2 = deeds (client.run (withoutCalls plan)).2 := by
  induction plan generalizing client called with
  | nil => exact ⟨h, rfl⟩
  | cons next plan ih =>
      cases next with
      | none =>
          simp only [callsConnecting, Bool.and_eq_true, decide_eq_true_eq] at hcalls
          exact ih (h.call hsettled hcalls.1) hsettled hcalls.2 hsatisfied
      | some move =>
          simp only [callsSatisfied, Bool.and_eq_true] at hsatisfied
          obtain ⟨hstep, hsame⟩ := h.step hsettled hsatisfied.1
          obtain ⟨hlast, hlater⟩ :=
            ih hstep (proceeds_step hsettled move).settled hcalls hsatisfied.2
          have hwithout : withoutCalls (some move :: plan) = move :: withoutCalls plan := rfl
          have hwith : withCalls (some move :: plan) = move :: withCalls plan := rfl
          rw [hwithout, hwith, run_cons, run_cons]
          refine ⟨hlast, ?_⟩
          rw [deeds_append, deeds_append, hsame, hlater]

/-! ## Failed attempts -/

/-- What is seen when the attempt of a client fails. -/
def refusal (client : Client) (error : ClientError) : List (Nat × ClientEvent) :=
  [(client.clock, .changed .disconnected), (client.clock, .refused client.attempt error)]

section Refusal

variable (hphase : client.phase = .opening) (hstate : client.state = .connecting)
include hphase hstate

/-- A client whose attempt fails waits. -/
theorem step_refused (error : ClientError) :
    client.step (.refused error)
      = (client.pausing, [.changed .disconnected, .refused client.attempt error]) := by
  rw [step, if_pos hphase, takeRefusal_of_connecting hstate]

/-- What is seen after a failed attempt is what is seen of the client that waits then. -/
theorem run_refused (error : ClientError) (moves : List ClientMove) :
    (client.run (.refused error :: moves)).2
      = client.refusal error ++ (client.pausing.run moves).2 := by
  rw [run_cons, step_refused hphase hstate]
  rfl

variable (hcancelled : client.cancelled = false)
include hcancelled

/-- A request that is left when an attempt fails makes the next one start at once. -/
theorem run_refused_obey (hrequested : client.requested = true) (error : ClientError) :
    (client.run [.refused error, .obey]).2
      = client.refusal error ++ (client.clock, .hurried) :: client.nextAttempt client.clock := by
  rw [run_refused hphase hstate]
  exact congrArg _ (@run_obey client.pausing 0 rfl rfl hcancelled hrequested)

/-- Without one it starts at the end of the delay. -/
theorem run_refused_wake (hrequested : client.requested = false) (error : ClientError) :
    (client.run [.refused error, .elapse client.delay, .wake]).2
      = client.refusal error ++ client.nextAttempt (client.clock + client.delay) := by
  rw [run_refused hphase hstate]
  have hwake := @run_elapse_wake client.pausing 0 rfl rfl hcancelled hrequested (Nat.zero_le _)
  exact congrArg _ hwake

/-- It does not start before. -/
theorem run_refused_early (hrequested : client.requested = false) (error : ClientError)
    {millis : Nat} (hmillis : millis < client.delay) :
    (client.run [.refused error, .elapse millis, .wake, .obey]).2 = client.refusal error := by
  have hbefore : 0 + millis < client.delay := (Nat.zero_add _).symm ▸ hmillis
  rw [run_refused hphase hstate]
  exact congrArg _ (@run_elapse_early client.pausing 0 rfl hcancelled hrequested millis hbefore)

end Refusal

/-! ## Calls while a connection is being opened -/

/-- **Requests made while a connection is being opened change nothing, if the attempt brings it.**
Let two runs make the same moves, except that in the second a reconnection is also requested at
moments when the client of the first is connecting, and let no attempt fail of which only the second
client remembers a request, and is not cancelled.  Then the two clients are in the same state, and
what they have done about their connections, with the times, is the same.

If such an attempt fails next, they part: the second client lets no time pass, and may start its
next attempt at once; the first starts it at the end of the delay, and not before. -/
theorem calls_in_flight (delay : Nat) (plan : List (Option ClientMove))
    (hcalls : callsConnecting (ofDelay delay) plan = true)
    (hsatisfied : callsSatisfied (ofDelay delay) (ofDelay delay) plan = true) :
    let alone := (ofDelay delay).run (withoutCalls plan)
    let called := (ofDelay delay).run (withCalls plan)
    called.1.state = alone.1.state ∧ deeds called.2 = deeds alone.2 ∧
    (alone.1.state = .connecting → alone.1.cancelled = false → alone.1.requested = false →
      called.1.requested = true → ∀ error,
        (∀ millis, (called.1.step (.refused error)).1.canElapse millis = false) ∧
        (called.1.run [.refused error, .obey]).2
          = alone.1.refusal error ++ (alone.1.clock, .hurried) ::
            alone.1.nextAttempt alone.1.clock ∧
        (alone.1.run [.refused error, .elapse delay, .wake]).2
          = alone.1.refusal error ++ alone.1.nextAttempt (alone.1.clock + delay) ∧
        ∀ millis < delay, (alone.1.run [.refused error, .elapse millis, .wake, .obey]).2
          = alone.1.refusal error) := by
  intro alone called
  have hrun : Abreast alone.1 called.1 ∧ deeds called.2 = deeds alone.2 :=
    Abreast.run .same rfl hcalls hsatisfied
  obtain ⟨habreast, hsame⟩ := hrun
  have hdelay : alone.1.delay = delay := run_delay _ _
  refine ⟨habreast.state_eq, hsame, fun hstate hcancelled hunrequested hrequested error => ?_⟩
  -- clients that differ in what they remember are opening a connection
  have hcalled : called.1 = { alone.1 with requested := true } ∧ alone.1.phase = .opening := by
    generalize called.1 = other at habreast hrequested
    cases habreast with
    | same =>
        rw [hunrequested] at hrequested
        cases hrequested
    | called hphase => exact ⟨rfl, hphase⟩
    | doomed hdoomed =>
        rw [hdoomed.cancelled] at hcancelled
        cases hcancelled
  obtain ⟨hother, hphase⟩ := hcalled
  rw [show called.1 = _ from hother]
  refine ⟨fun millis => ?_, ?_, ?_, fun millis hmillis => ?_⟩
  · rw [@step_refused { alone.1 with requested := true } hphase hstate]
    exact canElapse_of_requested rfl rfl millis
  · exact @run_refused_obey { alone.1 with requested := true } hphase hstate hcancelled rfl error
  · rw [← hdelay]
    exact run_refused_wake hphase hstate hcancelled hunrequested error
  · rw [← hdelay] at hmillis
    exact run_refused_early hphase hstate hcancelled hunrequested error hmillis

/-- A client is called twice in its first attempt, which brings a connection, and once in its
second, which does not, but is cancelled then. -/
theorem calls_in_flight_of_success :
    let plan : List (Option ClientMove) :=
      [some .start, none, some (.elapse 3), none, some .opened, some .peerClosed, some .closed,
        some (.elapse 5), some .wake, none, some .cancel, some (.refused (.connect "")), some .quit]
    let alone := (ofDelay 5).run (withoutCalls plan)
    let called := (ofDelay 5).run (withCalls plan)
    callsConnecting (ofDelay 5) plan = true ∧
      callsSatisfied (ofDelay 5) (ofDelay 5) plan = true ∧
      called.1.state = alone.1.state ∧ deeds called.2 = deeds alone.2 := by
  intro plan alone called
  have hcalls : callsConnecting (ofDelay 5) plan = true := rfl
  have hsatisfied : callsSatisfied (ofDelay 5) (ofDelay 5) plan = true := rfl
  obtain ⟨hstate, hsame, -⟩ := calls_in_flight 5 plan hcalls hsatisfied
  exact ⟨hcalls, hsatisfied, hstate, hsame⟩

/-- **A request outlives an attempt that fails.**  An attempt fails after 100 ms, and the next one
starts after the delay of a second; but if a reconnection has been requested while the first was
under way, it starts with no delay. -/
theorem call_outlives_refusal :
    let failure : ClientError := .connect "refused"
    let plan : List (Option ClientMove) :=
      [some .start, some (.elapse 50), none, some (.elapse 50), some (.refused failure), some .obey,
        some (.elapse 1000), some .wake]
    let alone := (ofDelay 1000).run (withoutCalls plan)
    let called := (ofDelay 1000).run (withCalls plan)
    let failed : List (Nat × ClientEvent) :=
      [(0, .changed .connecting), (0, .attempted 1), (100, .changed .disconnected),
        (100, .refused 1 failure)]
    callsConnecting (ofDelay 1000) plan = true ∧
      deeds alone.2 = failed ++ [(1100, .changed .connecting), (1100, .attempted 2)] ∧
      deeds called.2 = failed ++ [(100, .changed .connecting), (100, .attempted 2)] ∧
      deeds called.2 ≠ deeds alone.2 := by
  intro failure plan alone called failed
  have halone : deeds alone.2
      = failed ++ [(1100, .changed .connecting), (1100, .attempted 2)] := rfl
  have hcalled : deeds called.2
      = failed ++ [(100, .changed .connecting), (100, .attempted 2)] := rfl
  refine ⟨rfl, halone, hcalled, fun heq => ?_⟩
  -- the times of the second attempt differ
  rw [halone, hcalled] at heq
  exact absurd (congrArg (List.map Prod.fst) heq) (by decide)

end Client

end ReportRelay
