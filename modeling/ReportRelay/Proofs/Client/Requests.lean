/-
# What becomes of requests

A client remembers that a reconnection has been requested until it uses that up: at the start of
an attempt, when an attempt has brought a connection, in tearing a connection down, and in cutting
the delay short.  Only the last two are effects that a request has.

The history of a run tells the requests between the events that are seen of the client.  A client
remembers a request exactly if it has been called since it last used one up (`Sound.requested`).
Since opening a connection uses up what was requested before, a client tears a connection down only
if it has been called while that was open.
-/
import ReportRelay.Proofs.Client.States

namespace ReportRelay

/-! ## Histories -/

/-- What happens in a run, as far as requests go. -/
inductive Happening where
  /-- A reconnection is requested. -/
  | called
  /-- The client tears the connection of an attempt down, on a request. -/
  | torn (attempt : Nat)
  /-- Something is seen of the client. -/
  | seen (event : ClientEvent)
  deriving Repr

/-- Tells whether the client uses up a request, with or without an effect. -/
def ClientEvent.isUse : ClientEvent → Bool
  | attempted _ => true
  | opened _ => true
  | hurried => true
  | _ => false

/-- Tells whether a connection has been opened or is lost. -/
def ClientEvent.isBorder : ClientEvent → Bool
  | opened _ => true
  | lost _ => true
  | _ => false

namespace Happening

/-- Tells whether a reconnection is requested. -/
def isCall : Happening → Bool
  | called => true
  | _ => false

/-- Tells whether the client uses up a request, with or without an effect. -/
def isUse : Happening → Bool
  | called => false
  | torn _ => true
  | seen event => event.isUse

/-- Tells whether a request takes effect: a connection is torn down, or the delay cut short. -/
def isEffect : Happening → Bool
  | torn _ => true
  | seen .hurried => true
  | _ => false

/-- Tells whether a connection has been opened or is lost. -/
def isBorder : Happening → Bool
  | seen event => event.isBorder
  | _ => false

/-- What has an effect uses a request up. -/
theorem isUse_of_isEffect {happening : Happening} (h : happening.isEffect = true) :
    happening.isUse = true := by
  cases happening with
  | called => cases h
  | torn attempt => rfl
  | seen event =>
      cases event with
      | hurried => rfl
      | _ => cases h

end Happening

/-- The client publishes that it is connected, in the attempt of a number. -/
def connection (attempt : Nat) : List Happening :=
  [.seen (.changed .connected), .seen (.opened attempt)]

/-- Something has happened, and nothing of a kind after it. -/
def Since (mark : List Happening) (ends : Happening → Bool) (past : List Happening) : Prop :=
  ∃ before after, past = before ++ mark ++ after ∧ ∀ happening ∈ after, ends happening = false

/-- Tells whether a request is left that has not been used up, given whether there was one before
something happens. -/
def remember (remembered : Bool) (happening : Happening) : Bool :=
  happening.isCall || (remembered && !happening.isUse)

@[simp] theorem remember_called (remembered : Bool) : remember remembered .called = true := rfl

@[simp] theorem remember_torn (remembered : Bool) (attempt : Nat) :
    remember remembered (.torn attempt) = false := Bool.and_false _

@[simp] theorem remember_seen (remembered : Bool) (event : ClientEvent) :
    remember remembered (.seen event) = (remembered && !event.isUse) := rfl

/-- Nothing is left once a request is used up. -/
theorem remember_of_isUse (remembered : Bool) {happening : Happening}
    (h : happening.isUse = true) : remember remembered happening = false := by
  cases happening with
  | called => cases h
  | torn attempt => exact remember_torn remembered attempt
  | seen event =>
      have hevent : event.isUse = true := h
      rw [remember_seen, hevent, Bool.not_true, Bool.and_false]

/-- Tells whether a request is left that has not been used up. -/
def remembered (past : List Happening) : Bool := past.foldl remember false

section Since

variable {mark past more : List Happening} {ends : Happening → Bool}

/-- What happens now has happened since. -/
theorem since_append (mark past : List Happening) (ends : Happening → Bool)
    (hmore : ∀ happening ∈ more, ends happening = false) :
    Since mark ends (past ++ (mark ++ more)) :=
  ⟨past, more, (List.append_assoc _ _ _).symm, hmore⟩

/-- It goes on to be so while nothing of the kind happens. -/
theorem Since.append (h : Since mark ends past)
    (hmore : ∀ happening ∈ more, ends happening = false) : Since mark ends (past ++ more) := by
  obtain ⟨before, after, rfl, hafter⟩ := h
  refine ⟨before, after ++ more, by rw [List.append_assoc], fun happening hmem => ?_⟩
  exact (List.mem_append.mp hmem).elim (hafter happening) (hmore happening)

/-- What happens then is remembered after what has happened before. -/
theorem remembered_append (past more : List Happening) :
    remembered (past ++ more) = more.foldl remember (remembered past) :=
  List.foldl_append

/-- What is no request, and uses none up, changes nothing about what is left. -/
theorem foldl_remember_of_plain {events : List ClientEvent} (remembered : Bool)
    (h : ∀ event ∈ events, event.isUse = false) :
    (events.map Happening.seen).foldl remember remembered = remembered := by
  induction events with
  | nil => rfl
  | cons event events ih =>
      rw [List.forall_mem_cons] at h
      rw [List.map_cons, List.foldl_cons, remember_seen, h.1, Bool.not_false, Bool.and_true, ih h.2]

/-- A request is left if one has been made and none used up since. -/
theorem remembered_iff : remembered past = true ↔ Since [.called] Happening.isUse past := by
  -- by what happens last
  induction past using List.reverseRecOn with
  | nil =>
      constructor
      · rintro ⟨⟩
      · rintro ⟨before, after, heq, -⟩
        simp at heq
  | append_singleton past happening ih =>
      rw [remembered, List.foldl_append, List.foldl_cons, List.foldl_nil, ← remembered, remember,
        Bool.or_eq_true, Bool.and_eq_true, Bool.not_eq_true', ih]
      constructor
      · rintro (hcall | ⟨hsince, huse⟩)
        · cases happening with
          | called => exact since_append [.called] past _ (List.forall_mem_nil _)
          | torn attempt => cases hcall
          | seen event => cases hcall
        · exact hsince.append (List.forall_mem_singleton.mpr huse)
      · rintro ⟨before, after, heq, hafter⟩
        rcases List.eq_nil_or_concat' after with rfl | ⟨between, last, rfl⟩
        · rw [List.append_nil] at heq
          obtain ⟨-, hlast⟩ := List.append_inj' heq rfl
          obtain rfl := List.singleton_inj.mp hlast
          exact Or.inl rfl
        · rw [List.forall_mem_append, List.forall_mem_singleton] at hafter
          rw [← List.append_assoc] at heq
          obtain ⟨rfl, hlast⟩ := List.append_inj' heq rfl
          obtain rfl := List.singleton_inj.mp hlast
          exact Or.inr ⟨⟨before, between, rfl, hafter.1⟩, hafter.2⟩

/-- The last request, and what happened since. -/
theorem since_called_iff : Since [.called] Happening.isUse past
    ↔ ∃ before gap, past = before ++ .called :: gap ∧
      ∀ happening ∈ gap, happening.isUse = false := by
  simp only [Since, List.append_assoc, List.singleton_append]

/-- A request that has not been used up was made after the last use. -/
theorem Since.called_mem {before live : List Happening} {use : Happening}
    (h : Since [.called] Happening.isUse (before ++ use :: live)) (huse : use.isUse = true) :
    Happening.called ∈ live := by
  have hlive : remembered live = true := by
    rw [← remembered_iff, remembered_append, List.foldl_cons, remember_of_isUse _ huse] at h
    exact h
  obtain ⟨earlier, after, rfl, -⟩ := remembered_iff.mp hlive
  simp

end Since

/-! ## Causes -/

/-- Something that happens has its cause in the past: a connection is torn down that is open, on a
request, and the delay is cut short on a request; a connection is lost as such that has been torn
down. -/
def Caused (past : List Happening) : Happening → Prop
  | .torn attempt =>
    Since [.called] Happening.isUse past ∧ Since (connection attempt) Happening.isBorder past
  | .seen .hurried => Since [.called] Happening.isUse past
  | .seen (.lost .forced) => ∃ attempt, Since [.torn attempt] Happening.isBorder past
  | _ => True

/-- An effect of a request has a request that was not used up for its cause. -/
theorem Caused.since_called {past : List Happening} {effect : Happening} (h : Caused past effect)
    (heffect : effect.isEffect = true) : Since [.called] Happening.isUse past := by
  cases effect with
  | called => cases heffect
  | torn attempt => exact h.1
  | seen event =>
      cases event with
      | hurried => exact h
      | _ => cases heffect

/-- Everything that happens after a past has its cause before. -/
def AllCaused (past : List Happening) : List Happening → Prop
  | [] => True
  | happening :: more => Caused past happening ∧ AllCaused (past ++ [happening]) more

section AllCaused

variable {past earlier later : List Happening}

/-- What happens first is in the past of what happens then. -/
theorem allCaused_append : AllCaused past (earlier ++ later)
    ↔ AllCaused past earlier ∧ AllCaused (past ++ earlier) later := by
  induction earlier generalizing past with
  | nil => simp [AllCaused]
  | cons happening earlier ih => simp [AllCaused, ih, and_assoc]

/-- Each thing that happens has its cause in what happened before. -/
theorem AllCaused.caused {happening : Happening}
    (h : AllCaused past (earlier ++ happening :: later)) : Caused (past ++ earlier) happening :=
  (allCaused_append.mp h).2.1

/-- What uses up no request, and is not the loss of a connection, needs no cause. -/
theorem allCaused_of_plain {events : List ClientEvent}
    (h : ∀ event ∈ events, event.isUse = false ∧ event.isBorder = false) :
    AllCaused past (events.map .seen) := by
  induction events generalizing past with
  | nil => trivial
  | cons event events ih =>
      rw [List.forall_mem_cons] at h
      refine ⟨?_, ih h.2⟩
      cases event with
      | hurried => exact absurd h.1.1 (by decide)
      | lost reason => exact absurd h.1.2 Bool.noConfusion
      | _ => trivial

end AllCaused

namespace Client

/-- The request that a move is. -/
def calls : ClientMove → List Happening
  | .request => [.called]
  | _ => []

/-- The connection that is torn down, if a client that was reading closes it on a request. -/
def tears (client after : Client) : List Happening :=
  if client.phase = .reading ∧ after.phase = .closing .forced then [.torn client.attempt] else []

/-- A client that was reading tears its connection down. -/
theorem tears_of_reading {client : Client} (hphase : client.phase = .reading) :
    tears client { client with requested := false, phase := .closing .forced }
      = [.torn client.attempt] :=
  if_pos ⟨hphase, rfl⟩

/-- What happens in a move, given what comes of it. -/
def happenings (client : Client) (move : ClientMove) (moved : Client × List ClientEvent) :
    List Happening :=
  calls move ++ tears client moved.1 ++ moved.2.map .seen

/-- What happens in moves. -/
def history (client : Client) : List ClientMove → List Happening
  | [] => []
  | move :: moves =>
    happenings client move (client.step move) ++ history (client.step move).1 moves

/-! ## What a client knows of its past -/

/-- What a client remembers, and the phase in which it is, agree with its past: a request that it
remembers has been made since it used one up, the connection that it has is the latest, and has
been torn down if it is being closed for a request.  Every effect has had a call of its own, and a
request that is remembered has one left. -/
structure Sound (client : Client) (past : List Happening) : Prop where
  settled : client.state = client.phase.state
  requested : client.requested = remembered past
  connected : client.phase.state = .connected →
    Since (connection client.attempt) Happening.isBorder past
  forced : client.phase = .closing .forced →
    Since [.torn client.attempt] Happening.isBorder past
  count : past.countP Happening.isEffect + client.requested.toNat ≤ past.countP Happening.isCall

/-- A client that has not started knows of nothing. -/
theorem sound_ofDelay (delay : Nat) : Sound (ofDelay delay) [] where
  settled := rfl
  requested := rfl
  connected := by rintro ⟨⟩
  forced := by rintro ⟨⟩
  count := Nat.le_refl 0

/-- A client goes on from its past: what happens has its cause before, and what the client knows
of its past after it is right. -/
structure Continues (past : List Happening) (after : Client) (more : List Happening) : Prop where
  caused : AllCaused past more
  sound : Sound after (past ++ more)

/-- What happens in two parts goes on from the past, and from that and the first part. -/
theorem Continues.append {past more later : List Happening} {middle after : Client}
    (h : Continues past middle more) (hlater : Continues (past ++ more) after later) :
    Continues past after (more ++ later) where
  caused := allCaused_append.mpr ⟨h.caused, hlater.caused⟩
  sound := by
    rw [← List.append_assoc]
    exact hlater.sound

/-! ## Parts of moves -/

variable {client : Client} {past : List Happening}

/-- What is seen when a state is published, and an event after it that does nothing to requests
and connections, does nothing to them. -/
theorem plain_publish {state : ClientState} {last : ClientEvent} (huse : last.isUse = false)
    (hborder : last.isBorder = false) :
    ∀ event ∈ (client.publish state).2 ++ [last], event.isUse = false ∧ event.isBorder = false := by
  unfold publish
  split
  · exact List.forall_mem_singleton.mpr ⟨huse, hborder⟩
  · exact List.forall_mem_cons.mpr ⟨⟨rfl, rfl⟩, List.forall_mem_singleton.mpr ⟨huse, hborder⟩⟩

namespace Sound

/-- A client in a phase is in the state of that phase. -/
theorem state_eq (h : Sound client past) {phase : Phase} (hphase : client.phase = phase) :
    client.state = phase.state :=
  hphase ▸ h.settled

/-- Effects and calls are counted on. -/
theorem count_append (h : Sound client past) {more : List Happening} {requested : Bool}
    (hmore : more.countP Happening.isEffect + requested.toNat
      ≤ client.requested.toNat + more.countP Happening.isCall) :
    (past ++ more).countP Happening.isEffect + requested.toNat
      ≤ (past ++ more).countP Happening.isCall := by
  have hcount := h.count
  rw [List.countP_append, List.countP_append]
  omega

/-- A request that the client remembers has been made, and not been used up. -/
theorem since_called (h : Sound client past) (hrequested : client.requested = true) :
    Since [.called] Happening.isUse past :=
  remembered_iff.mp (h.requested ▸ hrequested)

/-- The client is called, and remembers that. -/
theorem called (h : Sound client past) :
    Continues past { client with requested := true } [.called] where
  caused := ⟨trivial, trivial⟩
  sound := {
    settled := h.settled
    requested := by rw [remembered_append]; rfl
    connected := fun hphase => (h.connected hphase).append (List.forall_mem_singleton.mpr rfl)
    forced := fun hphase => (h.forced hphase).append (List.forall_mem_singleton.mpr rfl)
    count := h.count_append (Nat.le_add_left _ _) }

/-- No request is used up, and no connection is opened or lost. -/
theorem plain (h : Sound client past) {after : Client} {events : List ClientEvent}
    (hsettled : after.state = after.phase.state) (hrequested : after.requested = client.requested)
    (hconnected : after.phase.state = .connected →
      client.phase.state = .connected ∧ after.attempt = client.attempt)
    (hforced : after.phase = .closing .forced → client.phase = .closing .forced)
    (hevents : ∀ event ∈ events, event.isUse = false ∧ event.isBorder = false) :
    Continues past after (events.map .seen) := by
  have huse : ∀ happening ∈ events.map Happening.seen, happening.isUse = false :=
    List.forall_mem_map.mpr fun event hevent => (hevents event hevent).1
  have hborder : ∀ happening ∈ events.map Happening.seen, happening.isBorder = false :=
    List.forall_mem_map.mpr fun event hevent => (hevents event hevent).2
  have hneither : (events.map Happening.seen).countP Happening.isEffect = 0 := by
    apply List.countP_eq_zero.mpr
    intro happening hmem heffect
    have hused := Happening.isUse_of_isEffect heffect
    rw [huse happening hmem] at hused
    cases hused
  constructor
  · exact allCaused_of_plain hevents
  · refine ⟨hsettled, ?_, fun hphase => ?_, fun hphase => ?_, ?_⟩
    · rw [hrequested, h.requested, remembered_append,
        foldl_remember_of_plain _ fun event hevent => (hevents event hevent).1]
    · obtain ⟨hwas, hattempt⟩ := hconnected hphase
      rw [hattempt]
      exact (h.connected hwas).append hborder
    · obtain ⟨-, hattempt⟩ := hconnected (by rw [hphase]; rfl)
      rw [hattempt]
      exact (h.forced (hforced hphase)).append hborder
    · apply h.count_append
      rw [hneither, hrequested]
      omega

/-- Nor does the client change. -/
theorem stay (h : Sound client past) {events : List ClientEvent}
    (hevents : ∀ event ∈ events, event.isUse = false ∧ event.isBorder = false) :
    Continues past client (events.map .seen) :=
  h.plain h.settled rfl (fun hphase => ⟨hphase, rfl⟩) id hevents

/-- An attempt uses up what was requested before. -/
theorem attempted (h : Sound client past) :
    Continues past
      { client with
        requested := false, attempt := client.attempt + 1, phase := .opening,
        state := .connecting }
      [.seen (.changed .connecting), .seen (.attempted (client.attempt + 1))] where
  caused := ⟨trivial, trivial, trivial⟩
  sound := {
    settled := rfl
    requested := by simp [remembered_append, ClientEvent.isUse]
    connected := by rintro ⟨⟩
    forced := by rintro ⟨⟩
    count := h.count_append (Nat.zero_le _) }

/-- So does a connection, which is open from then on. -/
theorem opened (h : Sound client past) :
    Continues past { client with requested := false, phase := .reading, state := .connected }
      [.seen (.changed .connected), .seen (.opened client.attempt)] where
  caused := ⟨trivial, trivial, trivial⟩
  sound := {
    settled := rfl
    requested := by simp [remembered_append, ClientEvent.isUse]
    connected := fun _ => since_append (connection client.attempt) past _ (List.forall_mem_nil _)
    forced := by rintro ⟨⟩
    count := h.count_append (Nat.zero_le _) }

/-- A request that is remembered tears the open connection down. -/
theorem torn (h : Sound client past) (hphase : client.phase = .reading)
    (hrequested : client.requested = true) :
    Continues past { client with requested := false, phase := .closing .forced }
      [.torn client.attempt, .seen (.closing client.attempt)] := by
  have hstate : client.phase.state = .connected := by rw [hphase, Phase.state]
  have hconnected := h.connected hstate
  refine ⟨⟨⟨h.since_called hrequested, hconnected⟩, trivial, trivial⟩, ?_⟩
  exact {
    settled := h.settled.trans hstate
    requested := by simp [remembered_append, ClientEvent.isUse]
    connected := fun _ => hconnected.append
      (List.forall_mem_cons.mpr ⟨rfl, List.forall_mem_singleton.mpr rfl⟩)
    forced := fun _ => since_append [.torn client.attempt] past _
      (List.forall_mem_singleton.mpr rfl)
    count := by
      apply h.count_append
      rw [hrequested]
      exact Nat.le_refl 1 }

/-- A request that is remembered cuts the delay short. -/
theorem hurried (h : Sound client past) (hrequested : client.requested = true) :
    Continues past { client with requested := false } [.seen .hurried] where
  caused := ⟨h.since_called hrequested, trivial⟩
  sound := {
    settled := h.settled
    requested := by simp [remembered_append, ClientEvent.isUse]
    connected := fun hphase => (h.connected hphase).append (List.forall_mem_singleton.mpr rfl)
    forced := fun hphase => (h.forced hphase).append (List.forall_mem_singleton.mpr rfl)
    count := by
      apply h.count_append
      rw [hrequested]
      exact Nat.le_refl 1 }

/-- The connection that was being closed is lost. -/
theorem lost (h : Sound client past) {reason : StreamEnd}
    (hphase : client.phase = .closing reason) :
    Continues past { client with phase := .waiting 0, state := .disconnected }
      [.seen (.changed .disconnected), .seen (.lost reason)] := by
  refine ⟨⟨trivial, ?_, trivial⟩, ?_⟩
  · cases reason with
    | forced => exact ⟨client.attempt, (h.forced hphase).append (List.forall_mem_singleton.mpr rfl)⟩
    | cancelled | closed | failed error => trivial
  · exact {
      settled := rfl
      requested := by simp [h.requested, remembered_append, ClientEvent.isUse]
      connected := by rintro ⟨⟩
      forced := by rintro ⟨⟩
      count := h.count_append (Nat.le_of_eq (Nat.zero_add _)) }

/-! ## Moves -/

/-- The client stops, whatever it publishes then. -/
theorem stop (h : Sound client past) :
    Continues past client.stop.1 (client.stop.2.map .seen) := by
  rw [Client.stop, publish_eq]
  exact h.plain rfl rfl (by rintro ⟨⟩) (by rintro ⟨⟩) (plain_publish rfl rfl)

/-- A client without a connection starts an attempt, or stops. -/
theorem beginAttempt (h : Sound client past) (hstate : client.state = .disconnected) :
    Continues past client.beginAttempt.1 (client.beginAttempt.2.map .seen) := by
  by_cases hcancelled : client.cancelled
  · rw [Client.beginAttempt, if_pos hcancelled]
    exact h.stop
  · rw [beginAttempt_of_disconnected hstate hcancelled]
    exact h.attempted

/-- A client whose attempt has failed waits. -/
theorem takeRefusal (h : Sound client past) (error : ClientError) :
    Continues past (client.takeRefusal error).1 ((client.takeRefusal error).2.map .seen) := by
  rw [Client.takeRefusal, publish_eq]
  exact h.plain rfl rfl (by rintro ⟨⟩) (by rintro ⟨⟩) (plain_publish rfl rfl)

/-- A client that reads a frame has the same connection after it. -/
theorem takeFrame (h : Sound client past) (hphase : client.phase = .reading) (text : String) :
    Continues past (client.takeFrame text).1 ((client.takeFrame text).2.map .seen) := by
  have hstate : client.state = .connected := h.state_eq hphase
  have hconnected : client.phase.state = .connected := by rw [hphase, Phase.state]
  have hread : ∀ event : ClientEvent, event.isUse = false → event.isBorder = false →
      ∀ other ∈ [.read text, event], other.isUse = false ∧ other.isBorder = false :=
    fun event huse hborder =>
      List.forall_mem_cons.mpr ⟨⟨rfl, rfl⟩, List.forall_mem_singleton.mpr ⟨huse, hborder⟩⟩
  rw [Client.takeFrame]
  split
  · exact h.plain hstate rfl (fun _ => ⟨hconnected, rfl⟩) (by rintro ⟨⟩) (hread _ rfl rfl)
  · exact h.stay (hread _ rfl rfl)
  · exact h.stay (hread _ rfl rfl)

/-- A client that closes its connection, but not on a request, has it until it is closed. -/
theorem beginClose (h : Sound client past) (hphase : client.phase = .reading)
    {reason : StreamEnd} (hreason : reason ≠ .forced) :
    Continues past (client.beginClose reason).1 ((client.beginClose reason).2.map .seen) := by
  have hstate : client.state = .connected := h.state_eq hphase
  have hconnected : client.phase.state = .connected := by rw [hphase, Phase.state]
  refine h.plain hstate rfl (fun _ => ⟨hconnected, rfl⟩) (fun hforced => ?_)
    (List.forall_mem_singleton.mpr ⟨rfl, rfl⟩)
  exact absurd (Phase.closing.inj hforced) hreason

/-- A client that goes on after a report reads from the same connection. -/
theorem goesOn (h : Sound client past) {id : String} (hphase : client.phase = .consuming id)
    {events : List ClientEvent}
    (hevents : ∀ event ∈ events, event.isUse = false ∧ event.isBorder = false) :
    Continues past { client with phase := .reading } (events.map .seen) := by
  have hstate : client.state = .connected := h.state_eq hphase
  have hconnected : client.phase.state = .connected := by rw [hphase, Phase.state]
  exact h.plain hstate rfl (fun _ => ⟨hconnected, rfl⟩) (by rintro ⟨⟩) hevents

/-- A client that has closed its connection loses it, and goes on as it would without one. -/
theorem afterClose (h : Sound client past) {reason : StreamEnd}
    (hphase : client.phase = .closing reason) :
    Continues past (client.afterClose reason).1 ((client.afterClose reason).2.map .seen) := by
  have hstate : client.state = .connected := h.state_eq hphase
  have hpublish : client.publish .disconnected
      = ({ client with state := .disconnected }, [.changed .disconnected]) :=
    publish_of_ne (by rw [hstate]; decide)
  have hlost := h.lost hphase
  rw [Client.afterClose, hpublish]
  cases reason with
  | cancelled => exact hlost.append hlost.sound.stop
  | forced => exact hlost.append (hlost.sound.beginAttempt rfl)
  | closed | failed error => exact hlost

/-- Time that passes changes nothing that a client knows. -/
theorem elapse (h : Sound client past) (millis : Nat) :
    Continues past (client.elapse millis) (List.map .seen []) := by
  simp only [Client.elapse]
  split
  · next elapsed hphase =>
      have hstate : client.state = .disconnected := h.state_eq hphase
      have hwaiting : Continues past
          { client with clock := client.clock + millis, phase := .waiting (elapsed + millis) }
          (List.map .seen []) :=
        h.plain hstate rfl (by rintro ⟨⟩) (by rintro ⟨⟩) (List.forall_mem_nil _)
      exact hwaiting
  · have hlater : Continues past { client with clock := client.clock + millis }
        (List.map .seen []) :=
      h.plain h.settled rfl (fun hphase => ⟨hphase, rfl⟩) id (List.forall_mem_nil _)
    exact hlater

end Sound

/-! ### Moves that tear no connection down -/

/-- A move is a request or is seen, if it tears no connection down. -/
theorem happenings_eq {moved : Client × List ClientEvent}
    (hunforced : client.phase = .reading → moved.1.phase ≠ .closing .forced) (move : ClientMove) :
    happenings client move moved = calls move ++ moved.2.map .seen := by
  have htears : tears client moved.1 = [] := if_neg fun h => hunforced h.1 h.2
  rw [happenings, htears, List.append_nil]

/-- Only a request is one. -/
theorem calls_eq_nil {move : ClientMove} (h : move ≠ .request) : calls move = [] := by
  cases move with
  | request => exact absurd rfl h
  | _ => rfl

/-- A request is all that happens when a client is called. -/
theorem happenings_request (client : Client) :
    happenings client .request (client.step .request) = [.called] :=
  happenings_eq (fun hphase => by rw [step, hphase]; rintro ⟨⟩) .request

/-- A client that reads a frame does not close its connection. -/
theorem takeFrame_unforced (hphase : client.phase = .reading) (text : String) :
    (client.takeFrame text).1.phase ≠ .closing .forced := by
  rw [takeFrame]
  split
  · rintro ⟨⟩
  · rw [hphase]
    rintro ⟨⟩
  · rw [hphase]
    rintro ⟨⟩

/-- A client that lets time pass does not close its connection. -/
theorem elapse_unforced (hphase : client.phase = .reading) (millis : Nat) :
    (client.elapse millis).phase ≠ .closing .forced := by
  simp only [elapse, hphase]
  rintro ⟨⟩

/-- **A client goes on from its past in every move.** -/
theorem Sound.step (h : Sound client past) (move : ClientMove) :
    Continues past (client.step move).1 (happenings client move (client.step move)) := by
  have hreading (hreads : client.readsNext = true) : client.phase = .reading :=
    (client.readsNext_iff.mp hreads).1
  -- a client that reads tears no connection down if it goes on reading, and no other client does
  have hsame (hphase : client.phase = .reading) : client.phase ≠ .closing .forced := by
    rw [hphase]
    rintro ⟨⟩
  have hother {phase : Phase} (hphase : client.phase = phase) (hne : phase ≠ .reading)
      {after : Client} : client.phase = .reading → after.phase ≠ .closing .forced :=
    fun hreading => absurd (hphase.symm.trans hreading) hne
  by_cases hrequest : move = .request
  · subst hrequest
    rw [happenings_request]
    exact h.called
  have hcalls : calls move = [] := calls_eq_nil hrequest
  have htakes := takes_step client move
  generalize client.step move = moved at htakes
  cases htakes with
  | nothing =>
      rw [happenings_eq fun hphase => hsame hphase, hcalls]
      exact h.stay (List.forall_mem_nil _)
  | request => exact absurd rfl hrequest
  | cancel =>
      rw [happenings_eq fun hphase => hsame hphase]
      exact h.plain h.settled rfl (fun hphase => ⟨hphase, rfl⟩) id (List.forall_mem_nil _)
  | start hphase | wake hphase =>
      rw [happenings_eq (hother hphase (by rintro ⟨⟩))]
      exact h.beginAttempt (h.state_eq hphase)
  | opened hphase =>
      rw [happenings_eq (hother hphase (by rintro ⟨⟩)),
        takeConnection_of_connecting (h.state_eq hphase)]
      exact h.opened
  | refused hphase =>
      rw [happenings_eq (hother hphase (by rintro ⟨⟩))]
      exact h.takeRefusal _
  | frame hreads =>
      rw [happenings_eq fun hphase => takeFrame_unforced hphase _]
      exact h.takeFrame (hreading hreads) _
  | peerClosed hreads | readFailed hreads =>
      rw [happenings_eq fun _ => by rintro ⟨⟩]
      exact h.beginClose (hreading hreads) (by rintro ⟨⟩)
  | consumed hphase =>
      rw [happenings_eq (hother hphase (by rintro ⟨⟩))]
      exact h.goesOn hphase (List.forall_mem_nil _)
  | panicked hphase =>
      rw [happenings_eq (hother hphase (by rintro ⟨⟩))]
      exact h.goesOn hphase (List.forall_mem_singleton.mpr ⟨rfl, rfl⟩)
  | closed hphase =>
      rw [happenings_eq (hother hphase (by rintro ⟨⟩))]
      exact h.afterClose hphase
  | elapse =>
      rw [happenings_eq fun hphase => elapse_unforced hphase _]
      exact h.elapse _
  | obeyReading hphase hrequested =>
      rw [Client.beginClose, happenings, tears_of_reading hphase]
      exact h.torn hphase hrequested
  | obeyWaiting hphase hrequested =>
      rw [happenings_eq (hother hphase (by rintro ⟨⟩))]
      have hhurried := h.hurried hrequested
      exact hhurried.append (hhurried.sound.beginAttempt (h.state_eq hphase))
  | quitReading hphase =>
      rw [happenings_eq fun _ => by rintro ⟨⟩]
      exact h.beginClose hphase (by rintro ⟨⟩)
  | quitOpening hphase | quitWaiting hphase =>
      rw [happenings_eq (hother hphase (by rintro ⟨⟩))]
      exact h.stop

/-- **A client goes on from its past in every run.** -/
theorem Sound.run (h : Sound client past) (moves : List ClientMove) :
    Continues past (client.run moves).1 (history client moves) := by
  induction moves generalizing client past with
  | nil => exact ⟨trivial, by rw [history, List.append_nil]; exact h⟩
  | cons move moves ih =>
      have hstep := h.step move
      exact hstep.append (ih hstep.sound)

/-- A request that is remembered takes effect when the client takes it, in reading or waiting. -/
theorem exists_effect (hrequested : client.requested = true)
    (hphase : (client.phase = .reading ∧ client.cancelled = false) ∨
      ∃ elapsed, client.phase = .waiting elapsed) :
    ∃ happening ∈ happenings client .obey (client.step .obey), happening.isEffect = true := by
  rcases hphase with ⟨hreading, hcancelled⟩ | ⟨elapsed, hwaiting⟩
  · have hobey : client.step .obey
        = ({ client with requested := false, phase := .closing .forced },
          [.closing client.attempt]) := by
      simp [step, obey, beginClose, hreading, hrequested, hcancelled]
    refine ⟨.torn client.attempt, ?_, rfl⟩
    rw [hobey, happenings, tears_of_reading hreading]
    exact List.mem_cons_self
  · refine ⟨.seen .hurried, ?_, rfl⟩
    rw [happenings, List.mem_append, List.mem_map]
    refine Or.inr ⟨.hurried, ?_, rfl⟩
    simp [step, obey, hwaiting, hrequested]

/-- **Forced reconnections are neither stale nor repeated.**  A connection is torn down on a request
only if it is open, as the latest that was published, and a request has been made since it was
published; and only such a connection is lost as forced.  Every effect of a request comes after a
request that has not been used up, so that another request is made between two effects, and there
are no more effects than requests.  The client remembers a request just as long as it has not been
used up, and the request has an effect if the client takes it then. -/
theorem requests_of_run (delay : Nat) (moves : List ClientMove) :
    let client := ((ofDelay delay).run moves).1
    let told := history (ofDelay delay) moves
    (∀ earlier attempt later, told = earlier ++ .torn attempt :: later →
      ∃ before live, earlier = before ++ connection attempt ++ live ∧ Happening.called ∈ live ∧
        ∀ happening ∈ live, happening.isBorder = false) ∧
    (∀ earlier later, told = earlier ++ .seen (.lost .forced) :: later →
      ∃ before attempt closing, earlier = before ++ .torn attempt :: closing ∧
        ∀ happening ∈ closing, happening.isBorder = false) ∧
    (∀ earlier effect later, told = earlier ++ effect :: later → effect.isEffect = true →
      ∃ before gap, earlier = before ++ .called :: gap ∧
        ∀ happening ∈ gap, happening.isUse = false) ∧
    (∀ earlier effect between other later,
      told = earlier ++ effect :: between ++ other :: later →
        effect.isEffect = true → other.isEffect = true → Happening.called ∈ between) ∧
    told.countP Happening.isEffect ≤ told.countP Happening.isCall ∧
    (client.requested = true ↔ ∃ before gap, told = before ++ .called :: gap ∧
      ∀ happening ∈ gap, happening.isUse = false) ∧
    (client.requested = true →
      (client.phase = .reading ∧ client.cancelled = false) ∨
        (∃ elapsed, client.phase = .waiting elapsed) →
      ∃ happening ∈ happenings client .obey (client.step .obey), happening.isEffect = true) := by
  intro client told
  have hrun : Continues [] client told := (sound_ofDelay delay).run moves
  have hcaused : ∀ {earlier happening later}, told = earlier ++ happening :: later →
      Caused earlier happening := by
    intro earlier happening later htold
    have hall := hrun.caused
    rw [htold] at hall
    exact hall.caused
  have heffect : ∀ {earlier effect later}, told = earlier ++ effect :: later →
      effect.isEffect = true → Since [.called] Happening.isUse earlier :=
    fun htold heffect => (hcaused htold).since_called heffect
  refine ⟨fun earlier attempt later htold => ?_, fun earlier later htold => ?_,
    fun earlier effect later htold h => since_called_iff.mp (heffect htold h),
    fun earlier effect between other later htold h hother => ?_, ?_, ?_, exists_effect⟩
  · obtain ⟨hcalled, before, live, rfl, hlive⟩ := hcaused htold
    refine ⟨before, live, rfl, ?_, hlive⟩
    have hopened : before ++ connection attempt ++ live
        = before ++ [.seen (.changed .connected)] ++ .seen (.opened attempt) :: live := by
      simp [connection]
    rw [hopened] at hcalled
    exact hcalled.called_mem rfl
  · obtain ⟨attempt, before, closing, rfl, hclosing⟩ := hcaused htold
    exact ⟨before, attempt, closing, by simp, hclosing⟩
  · exact (heffect htold hother).called_mem (Happening.isUse_of_isEffect h)
  · exact (Nat.le_add_right _ _).trans hrun.sound.count
  · rw [hrun.sound.requested, remembered_iff]
    exact since_called_iff

/-- Of two requests that are made before a connection is open and two that are made while it is,
only the last ones have an effect, which is one: the connection is torn down.  A request that is
made while it is being closed has none, and one that is made during the delay cuts that short. -/
theorem requests_of_calls_in_all_phases :
    let moves : List ClientMove :=
      [.request, .start, .request, .opened, .request, .request, .obey, .request, .closed,
        .refused (.connect ""), .request, .obey]
    let told := history (ofDelay 5) moves
    let opened : List Happening :=
      [.called, .seen (.changed .connecting), .seen (.attempted 1), .called] ++ connection 1
    let closed : List Happening :=
      [.seen (.closing 1), .called, .seen (.changed .disconnected), .seen (.lost .forced)]
    let again : List Happening :=
      [.seen (.changed .connecting), .seen (.attempted 2), .seen (.changed .disconnected),
        .seen (.refused 2 (.connect "")), .called]
    let hurried : List Happening :=
      [.seen .hurried, .seen (.changed .connecting), .seen (.attempted 3)]
    told = opened ++ [.called, .called] ++ .torn 1 :: (closed ++ again ++ hurried) ∧
      (∃ before live, opened ++ [.called, .called] = before ++ connection 1 ++ live ∧
        Happening.called ∈ live ∧ ∀ happening ∈ live, happening.isBorder = false) ∧
      Happening.called ∈ closed ++ again ∧
      told.countP Happening.isEffect = 2 ∧ 2 ≤ told.countP Happening.isCall := by
  intro moves told opened closed again hurried
  obtain ⟨htorn, -, -, hbetween, hcount, -, -⟩ := requests_of_run 5 moves
  have htold : told = opened ++ [.called, .called] ++ .torn 1 :: (closed ++ again ++ hurried) := rfl
  refine ⟨htold, htorn _ 1 _ htold, ?_, rfl, hcount⟩
  exact hbetween (opened ++ [.called, .called]) (.torn 1) (closed ++ again) (.seen .hurried)
    (hurried.drop 1) rfl rfl rfl

end Client

end ReportRelay
