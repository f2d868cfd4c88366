/-
# The lives of streams

A stream waits, writes the frame of a message that it has received, and waits again, until it
ends and leaves.  A move of the server is at most one such turn of a stream (`Turns`), so what can
be seen of a stream tells where in its life it is (`Lives`): it has written the frames of the
messages that it has received, but for the one that it is writing or could not write.
-/
import ReportRelay.Proofs.Relay.Stream
import ReportRelay.Proofs.Server.Registrations

namespace ReportRelay

namespace Server

variable {server : Server} {id other : SubscriptionId}

/-! ## What a stream has received and written -/

/-- The text frame that an event shows as written on the stream of a subscription. -/
def frameOn? (id : SubscriptionId) : ServerEvent → Option String
  | .wrote other frame => if other = id then some frame else none
  | _ => none

/-- The frame of the message that an event shows as received by the stream of a subscription. -/
def takenOn? (id : SubscriptionId) : ServerEvent → Option String
  | .relay (.received other (.item message)) => if other = id then some message.frame else none
  | _ => none

/-- The text frames written on the stream of a subscription. -/
def framesOn (id : SubscriptionId) (events : List ServerEvent) : List String :=
  events.filterMap (frameOn? id)

/-- The frames of the messages that the stream of a subscription has received. -/
def takenOn (id : SubscriptionId) (events : List ServerEvent) : List String :=
  events.filterMap (takenOn? id)

@[simp] theorem framesOn_append (id : SubscriptionId) (events later : List ServerEvent) :
    framesOn id (events ++ later) = framesOn id events ++ framesOn id later :=
  List.filterMap_append

@[simp] theorem takenOn_append (id : SubscriptionId) (events later : List ServerEvent) :
    takenOn id (events ++ later) = takenOn id events ++ takenOn id later :=
  List.filterMap_append

/-- A message that is received is not written yet. -/
theorem told_received (id : SubscriptionId) (message : Message) :
    takenOn id [.relay (.received id (.item message))] = [message.frame] ∧
      framesOn id [.relay (.received id (.item message))] = [] := by
  simp [takenOn, takenOn?, framesOn, frameOn?]

/-- A frame that is written is not received. -/
theorem told_wrote (id : SubscriptionId) (frame : String) :
    takenOn id [.wrote id frame] = [] ∧ framesOn id [.wrote id frame] = [frame] := by
  simp [takenOn, takenOn?, framesOn, frameOn?]

/-- What a stream has received is what the viewer of the relay has. -/
theorem takenOn_eq (id : SubscriptionId) (events : List ServerEvent) :
    takenOn id events = (Relay.got id (relayEvents events)).map Message.frame := by
  unfold takenOn Relay.got Relay.received relayEvents
  rw [List.filterMap_filterMap, List.filterMap_filterMap, List.map_filterMap]
  apply List.filterMap_congr
  intro event _
  cases event with
  | relay shown =>
      cases shown with
      | hub => rfl
      | received other what =>
          by_cases hid : other = id
          · cases what <;> simp [takenOn?, relayEvent?, Relay.receivedBy?, Received.item?, hid]
          · cases what <;> simp [takenOn?, relayEvent?, Relay.receivedBy?, hid]
  | _ => rfl

/-- The tale of a stream tells what is about it. -/
theorem mem_tale {event : ServerEvent} (habout : isAbout id event = true)
    {events : List ServerEvent} : event ∈ tale id events ↔ event ∈ events := by
  rw [tale, List.mem_filter, and_iff_left habout]

/-- What is read off the events about a stream is read off its tale. -/
theorem filterMap_tale {α : Type} {told : ServerEvent → Option α}
    (h : ∀ event, isAbout id event = false → told event = none) (events : List ServerEvent) :
    (tale id events).filterMap told = events.filterMap told := by
  unfold tale
  rw [List.filterMap_filter]
  apply List.filterMap_congr
  intro event _
  cases habout : isAbout id event with
  | true => rfl
  | false => exact (h event habout).symm

/-- The tale of a stream tells what is written on it. -/
theorem framesOn_tale (id : SubscriptionId) (events : List ServerEvent) :
    framesOn id (tale id events) = framesOn id events := by
  apply filterMap_tale
  intro event habout
  cases event with
  | wrote other frame => exact if_neg (by simpa [isAbout] using habout)
  | _ => rfl

/-- The tale of a stream tells what it has received. -/
theorem takenOn_tale (id : SubscriptionId) (events : List ServerEvent) :
    takenOn id (tale id events) = takenOn id events := by
  apply filterMap_tale
  intro event habout
  cases event with
  | relay shown =>
      cases shown with
      | hub => rfl
      | received other what =>
          cases what with
          | item message => exact if_neg (by simpa [isAbout] using habout)
          | _ => rfl
  | _ => rfl

/-! ## What a stream does after a move -/

/-- The streams decide what each does. -/
theorem phase?_congr {after : Server} (hstreams : after.streams = server.streams)
    (id : SubscriptionId) : after.phase? id = server.phase? id := by
  rw [phase?, hstreams]
  rfl

/-- Changing what a stream does is nothing to the others. -/
theorem phase?_setPhase (server : Server) (id other : SubscriptionId) (phase : StreamPhase) :
    (server.setPhase id phase).phase? other
      = (server.phase? other).map fun before => if other = id then phase else before := by
  have hsame : ((fun stream : Stream => stream.id == other) ∘ fun stream =>
      if stream.id = id then { stream with phase := phase } else stream)
      = fun stream => stream.id == other := by
    funext stream
    show ((if stream.id = id then { stream with phase := phase } else stream).id == other) = _
    split <;> rfl
  unfold phase? setPhase
  rw [List.find?_map, hsame, Option.map_map, Option.map_map]
  apply Option.map_congr
  intro stream hstream
  have hid : stream.id = other := by simpa using List.find?_some hstream
  show (if stream.id = id then { stream with phase := phase } else stream).phase
    = if other = id then phase else stream.phase
  rw [hid]
  split <;> rfl

/-- Changing what a stream does is all that happens to it. -/
theorem phase?_setPhase_self {before : Server} (hstreams : before.streams = server.streams)
    {phase : StreamPhase} (hphase : server.phase? id = some phase) (next : StreamPhase) :
    (before.setPhase id next).phase? id = some next := by
  rw [phase?_setPhase, phase?_congr hstreams, hphase, Option.map_some, if_pos rfl]

/-- When a stream leaves, the others stay. -/
theorem phase?_filter {after : Server}
    (hstreams : after.streams = server.streams.filter fun stream => stream.id != id)
    (other : SubscriptionId) :
    after.phase? other = if other = id then none else server.phase? other := by
  unfold phase?
  rw [hstreams, List.find?_filter]
  by_cases hid : other = id
  · rw [if_pos hid, Option.map_eq_none_iff, List.find?_eq_none]
    intro stream _
    simp [hid]
  · rw [if_neg hid]
    congr 2
    funext stream
    by_cases hother : stream.id = other <;> simp [hother, hid]

/-- A stream that is opened waits, and is nothing to the others. -/
theorem phase?_append {after : Server}
    (hstreams : after.streams = server.streams ++ [⟨id, .waiting⟩]) (other : SubscriptionId) :
    after.phase? other
      = (server.phase? other).or (if id = other then some .waiting else none) := by
  unfold phase?
  rw [hstreams, List.find?_append, List.find?_singleton]
  by_cases hid : id = other
  · rw [if_pos hid]
    cases server.streams.find? fun stream => stream.id == other <;> simp [hid]
  · cases server.streams.find? fun stream => stream.id == other <;> simp [hid]

/-! ## Turns -/

/-- What a move is to the stream of a subscription. -/
inductive Turns (id : SubscriptionId) (server : Server) (moved : Server × List ServerEvent) : Prop
  /-- It is nothing to the stream. -/
  | stays (hcreated : moved.1.relay.hub.bus.IsCreated id ↔ server.relay.hub.bus.IsCreated id)
      (hphase : moved.1.phase? id = server.phase? id) (htale : tale id moved.2 = [])
  /-- The stream is opened. -/
  | opens (hbefore : ¬server.relay.hub.bus.IsCreated id)
      (hafter : moved.1.phase? id = some .waiting) (htale : tale id moved.2 = [.opened id])
  /-- The stream takes a message. -/
  | takes (message : Message) (hbefore : server.phase? id = some .waiting)
      (hafter : moved.1.phase? id = some (.writing message))
      (htale : tale id moved.2 = [.relay (.received id (.item message))])
  /-- The stream has written the frame of a message. -/
  | writes (message : Message) (hbefore : server.phase? id = some (.writing message))
      (hafter : moved.1.phase? id = some .waiting)
      (htale : tale id moved.2 = [.wrote id message.frame])
  /-- The stream ends. -/
  | ends (phase : StreamPhase) (hbefore : server.phase? id = some phase)
      (hrunning : phase.isRunning = true) (hafter : moved.1.phase? id = some .leaving)
      (reason : StreamReason) (htale : tale id moved.2 = [.ended id reason])
  /-- The stream leaves. -/
  | leaves (hcreated : moved.1.relay.hub.bus.IsCreated id)
      (hbefore : server.phase? id = some .leaving)
      (hafter : moved.1.phase? id = none) (htale : tale id moved.2 = [])

variable {cut : List SubscriptionId}

/-- Who has a stream has been attached. -/
theorem Roll.isCreated (h : Roll cut server) {phase : StreamPhase}
    (hphase : server.phase? id = some phase) : server.relay.hub.bus.IsCreated id := by
  obtain ⟨stream, hstream, rfl, -⟩ := exists_of_phase? hphase
  exact h.created stream hstream

/-- A number that an event shows in a tale of its own is told there only. -/
theorem tale_singleton {event : ServerEvent} (habout : isAbout id event = decide (other = id)) :
    tale id [event] = if other = id then [event] else [] := by
  rw [tale, List.filter_singleton, habout]
  by_cases hid : other = id <;> simp [hid]

/-- While no stream is to come, what was to come is nothing to the streams. -/
theorem tale_conclude (h : ∀ id, server.upcoming ≠ some (.stream id)) (id : SubscriptionId) :
    tale id server.conclude.2 = [] := by
  unfold conclude
  split
  · rfl
  · split
    · rfl
    · rfl
    · next other hstream => exact absurd hstream (h other)

/-- Where the hub goes on, a stream is opened at most, under a new number. -/
theorem Roll.turns_moveHub (h : Roll cut server) (upcoming : Option Upcoming) {move : RelayMove}
    (hmove : ∀ other, move ≠ .receive other)
    (hcourse : Hub.Course server.relay.hub upcoming (server.relay.step move).1.hub)
    (id : SubscriptionId) :
    Turns id server (Server.moveHub { server with upcoming := upcoming } move) := by
  let moved := (Server.moveRelay { server with upcoming := upcoming } move).1
  have hrelay : moved.conclude.1.relay = moved.relay := (conclude_relay moved).1
  have htale : tale id (Server.moveHub { server with upcoming := upcoming } move).2
      = tale id moved.conclude.2 := by
    show tale id ((Server.moveRelay { server with upcoming := upcoming } move).2
      ++ moved.conclude.2) = _
    rw [tale_append, tale_moveRelay _ id hmove, List.nil_append]
  have hcreated : (server.relay.step move).1.hub.bus.nextId = server.relay.hub.bus.nextId →
      (moved.conclude.1.relay.hub.bus.IsCreated id ↔ server.relay.hub.bus.IsCreated id) := by
    intro hnext
    rw [hrelay, Bus.IsCreated, Bus.IsCreated]
    show 0 < id ∧ id < (server.relay.step move).1.hub.bus.nextId ↔ _
    rw [hnext]
  rcases hcourse with ⟨-, hnext, -, hupcoming⟩ | ⟨-, hnext, hreplay, hupcoming⟩ |
    ⟨-, hnext, hidle, hupcoming⟩
  · have hnone : ∀ id, moved.upcoming ≠ some (.stream id) := hupcoming
    refine .stays (hcreated hnext) ?_ (htale.trans (tale_conclude hnone id))
    have hstreams : moved.conclude.1.streams = server.streams := (conclude_of_no_stream hnone).1
    exact phase?_congr hstreams id
  · have hbusy : moved.relay.hub.isBusy = true := by
      rw [Hub.isBusy, Bool.or_eq_true]
      exact Or.inl hreplay
    have hconclude := conclude_of_busy hbusy
    refine .stays (hcreated hnext) ?_ ?_
    · show moved.conclude.1.phase? id = _
      rw [hconclude]
      rfl
    · rw [htale, hconclude]
      rfl
  · have hconclude : moved.conclude = _ := conclude_of_stream hidle hupcoming
    have hphase : moved.conclude.1.phase? id = (server.phase? id).or
        (if server.relay.hub.bus.nextId = id then some .waiting else none) := by
      rw [hconclude]
      exact phase?_append rfl id
    have hopened : tale id moved.conclude.2
        = if server.relay.hub.bus.nextId = id then [.opened server.relay.hub.bus.nextId]
          else [] := by
      rw [hconclude]
      exact tale_singleton (beq_eq_decide ..)
    by_cases hid : server.relay.hub.bus.nextId = id
    · subst hid
      have hnew : ¬server.relay.hub.bus.IsCreated server.relay.hub.bus.nextId :=
        fun hcreated => Nat.lt_irrefl _ hcreated.2
      have hnone : server.phase? server.relay.hub.bus.nextId = none := by
        cases hphase : server.phase? server.relay.hub.bus.nextId with
        | none => rfl
        | some phase => exact absurd (h.isCreated hphase) hnew
      refine .opens hnew ?_ ?_
      · refine hphase.trans ?_
        rw [hnone, if_pos rfl]
        rfl
      · rw [htale, hopened, if_pos rfl]
    · refine .stays ?_ ?_ ?_
      · show moved.conclude.1.relay.hub.bus.IsCreated id ↔ _
        rw [hrelay, Bus.IsCreated]
        show 0 < id ∧ id < (server.relay.step move).1.hub.bus.nextId ↔ _
        rw [hnext]
        exact (h.sound.bus.isCreated_subscribe id).trans (or_iff_left (Ne.symm hid))
      · refine hphase.trans ?_
        rw [if_neg hid, Option.or_none]
      · rw [htale, hopened, if_neg hid]

/-- A removal gives out no number. -/
theorem Roll.isCreated_removed (h : Roll cut server) {move : HubMove}
    (hmove : move.removes? = some other) (id : SubscriptionId) :
    (server.relay.hub.step move).1.bus.IsCreated id ↔ server.relay.hub.bus.IsCreated id := by
  rw [Bus.IsCreated, (h.removed hmove).2.1]
  rfl

/-- What a stream does next is nothing to the others. -/
theorem turns_of_ne (hne : id ≠ other) {before : Server} {phase : StreamPhase}
    {events : List ServerEvent} (hstreams : before.streams = server.streams)
    (hcreated : before.relay.hub.bus.IsCreated id ↔ server.relay.hub.bus.IsCreated id)
    (htale : tale id events = []) : Turns id server (before.setPhase other phase, events) := by
  refine .stays hcreated ?_ htale
  show (before.setPhase other phase).phase? id = _
  rw [phase?_setPhase, phase?_congr hstreams]
  simp only [if_neg hne, Option.map_id_fun', id_eq]

/-- What a move can do is a turn of a stream, or nothing to it. -/
theorem Roll.turns (h : Roll cut server) {cutNow : Option SubscriptionId}
    {moved : Server × List ServerEvent} (hsteps : Steps server cutNow moved)
    (id : SubscriptionId) : Turns id server moved := by
  cases hsteps with
  | stays hrelay hstreams hupcoming htale =>
      refine .stays ?_ (phase?_congr hstreams id) (htale id)
      rw [hrelay]
  | advances hmove hcourse => exact h.turns_moveHub _ hmove hcourse id
  | @takes other message hgiven =>
      obtain ⟨hphase, queue, hqueue, hreceive⟩ := given?_eq_some hgiven
      have htale : tale id (server.moveRelay (.receive other)).2
          = if other = id then [.relay (.received other (.item message))] else [] := by
        show tale id ((server.relay.receive other).2.map .relay) = _
        rw [Relay.receive_eq hqueue, hreceive]
        exact tale_singleton (beq_eq_decide ..)
      rw [take, hgiven]
      by_cases hid : other = id
      · subst hid
        rw [if_pos rfl] at htale
        exact .takes message hphase (phase?_setPhase_self rfl hphase _) htale
      · rw [if_neg hid] at htale
        refine turns_of_ne (Ne.symm hid) rfl ?_ htale
        show (server.relay.step (.receive other)).1.hub.bus.IsCreated id ↔ _
        rw [Relay.step_receive_hub]
  | @writes other message hphase =>
      have htale : tale id [.wrote other message.frame]
          = if other = id then [.wrote other message.frame] else [] :=
        tale_singleton (beq_eq_decide ..)
      rw [written, hphase]
      by_cases hid : other = id
      · subst hid
        rw [if_pos rfl] at htale
        exact .writes message hphase (phase?_setPhase_self rfl hphase _) htale
      · rw [if_neg hid] at htale
        exact turns_of_ne (Ne.symm hid) rfl Iff.rfl htale
  | @ends other reason phase hphase hrunning =>
      have htale : tale id ((server.moveRelay (.hub (.release other))).2 ++ [.ended other reason])
          = if other = id then [.ended other reason] else [] := by
        rw [tale_append, tale_moveRelay _ _ fun _ heq => by cases heq]
        exact tale_singleton (beq_eq_decide ..)
      by_cases hid : other = id
      · subst hid
        rw [if_pos rfl] at htale
        exact .ends phase hphase hrunning (phase?_setPhase_self rfl hphase _) reason htale
      · rw [if_neg hid] at htale
        refine turns_of_ne (Ne.symm hid) rfl ?_ htale
        exact h.isCreated_removed (show HubMove.removes? (.release other) = _ from rfl) id
  | @leaves other hphase =>
      have hafter : (server.leave other).1.phase? id
          = if id = other then none else server.phase? id := by
        rw [Server.leave, hphase]
        exact phase?_filter rfl id
      have hcreated : (server.leave other).1.relay.hub.bus.IsCreated id
          ↔ server.relay.hub.bus.IsCreated id := by
        rw [Server.leave, hphase]
        exact h.isCreated_removed (show HubMove.removes? (.discard other) = _ from rfl) id
      have htale : tale id (server.leave other).2 = [] := by
        rw [Server.leave, hphase]
        show tale id ((server.moveRelay (.hub (.discard other))).2 ++ []) = []
        rw [List.append_nil]
        exact tale_moveRelay _ _ fun _ heq => by cases heq
      by_cases hid : id = other
      · subst hid
        rw [if_pos rfl] at hafter
        exact .leaves (hcreated.mpr (h.isCreated hphase)) hphase hafter htale
      · rw [if_neg hid] at hafter
        exact .stays hcreated hafter htale
  | @detaches other =>
      refine .stays ?_ rfl (tale_moveRelay _ _ fun _ heq => by cases heq)
      exact h.isCreated_removed (show HubMove.removes? (.detach other) = _ from rfl) id

/-! ## Lives -/

/-- Where in its life the stream of a subscription is, given the tale of it. -/
inductive Lives (id : SubscriptionId) (server : Server) (told : List ServerEvent) : Prop
  /-- It has not been opened. -/
  | unopened (hcreated : ¬server.relay.hub.bus.IsCreated id) (hphase : server.phase? id = none)
      (htold : told = [])
  /-- It waits, and has written all that it has received. -/
  | waits (hphase : server.phase? id = some .waiting) (hopened : .opened id ∈ told)
      (hended : ∀ reason, .ended id reason ∉ told) (hframes : takenOn id told = framesOn id told)
  /-- It writes the last message that it has received. -/
  | writes (message : Message) (hphase : server.phase? id = some (.writing message))
      (hopened : .opened id ∈ told) (hended : ∀ reason, .ended id reason ∉ told)
      (hframes : takenOn id told = framesOn id told ++ [message.frame])
  /-- It has ended. -/
  | ended (hcreated : server.relay.hub.bus.IsCreated id)
      (hphase : ∀ phase, server.phase? id = some phase → phase.isRunning = false)
      (hopened : .opened id ∈ told) (hended : ∃ reason, .ended id reason ∈ told)
      (hframes : framesOn id told <+: takenOn id told)

/-- Nothing is told of a stream in the beginning. -/
theorem lives_ofConfig (config : HubConfig) (id : SubscriptionId) :
    Lives id (ofConfig config) [] := by
  refine .unopened ?_ rfl rfl
  rintro ⟨hpos, hlt⟩
  exact Nat.not_lt.mpr (Nat.le_of_lt_succ hlt) hpos

variable {told : List ServerEvent}

/-- What a stream has written are frames of what it has received. -/
theorem Lives.framesOn_takenOn (hl : Lives id server told) :
    framesOn id told <+: takenOn id told := by
  cases hl with
  | unopened hcreated hphase htold =>
      rw [htold]
      exact List.nil_prefix
  | waits hphase hopened hended hframes => exact hframes ▸ List.prefix_refl _
  | writes message hphase hopened hended hframes =>
      rw [hframes]
      exact List.prefix_append _ _
  | ended hcreated hphase hopened hended hframes => exact hframes

/-- A stream runs if it has been opened and has not ended. -/
theorem Lives.mem_running_iff (hl : Lives id server told) (h : Roll cut server) :
    id ∈ server.running ↔ .opened id ∈ told ∧ ∀ reason, .ended id reason ∉ told := by
  rw [h.mem_running_iff]
  cases hl with
  | unopened hcreated hphase htold => simp [hphase, htold]
  | waits hphase hopened hended hframes =>
      exact iff_of_true ⟨_, hphase, rfl⟩ ⟨hopened, hended⟩
  | writes message hphase hopened hended hframes =>
      exact iff_of_true ⟨_, hphase, rfl⟩ ⟨hopened, hended⟩
  | ended hcreated hphase hopened hended hframes =>
      obtain ⟨reason, hended⟩ := hended
      refine iff_of_false ?_ fun hboth => hboth.2 reason hended
      rintro ⟨phase, hsome, hrunning⟩
      rw [hphase phase hsome] at hrunning
      cases hrunning

/-- A turn of a stream is told of it. -/
theorem Lives.turn (hl : Lives id server told) (h : Roll cut server)
    {moved : Server × List ServerEvent} {cutAfter : List SubscriptionId}
    (hmoved : Roll cutAfter moved.1) (hturns : Turns id server moved) :
    Lives id moved.1 (told ++ tale id moved.2) := by
  cases hturns with
  | stays hcreated hphase htale =>
      rw [htale, List.append_nil]
      cases hl with
      | unopened hnot hnone htold =>
          exact .unopened (mt hcreated.mp hnot) (hphase.trans hnone) htold
      | waits hwaiting hopened hended hframes =>
          exact .waits (hphase.trans hwaiting) hopened hended hframes
      | writes message hwriting hopened hended hframes =>
          exact .writes message (hphase.trans hwriting) hopened hended hframes
      | ended hmade hover hopened hended hframes =>
          refine .ended (hcreated.mpr hmade) ?_ hopened hended hframes
          rw [hphase]
          exact hover
  | opens hbefore hafter htale =>
      have htold : told = [] := by
        cases hl with
        | unopened hnot hnone htold => exact htold
        | waits hphase => exact absurd (h.isCreated hphase) hbefore
        | writes message hphase => exact absurd (h.isCreated hphase) hbefore
        | ended hmade => exact absurd hmade hbefore
      rw [htold, htale]
      exact .waits hafter (List.mem_singleton.mpr rfl) (by simp) rfl
  | takes message hbefore hafter htale =>
      rw [htale]
      cases hl with
      | waits hphase hopened hended hframes =>
          obtain ⟨htaken, hwritten⟩ := told_received id message
          refine .writes message hafter (List.mem_append_left _ hopened) (by simp [hended]) ?_
          rw [takenOn_append, framesOn_append, hframes, htaken, hwritten, List.append_nil]
      | unopened hnot hnone =>
          rw [hbefore] at hnone
          cases hnone
      | writes other hphase =>
          rw [hbefore] at hphase
          cases hphase
      | ended hmade hover => cases hover _ hbefore
  | writes message hbefore hafter htale =>
      rw [htale]
      cases hl with
      | writes other hphase hopened hended hframes =>
          rw [hbefore] at hphase
          cases hphase
          obtain ⟨htaken, hwritten⟩ := told_wrote id message.frame
          refine .waits hafter (List.mem_append_left _ hopened) (by simp [hended]) ?_
          rw [takenOn_append, framesOn_append, hframes, htaken, hwritten, List.append_nil]
      | unopened hnot hnone =>
          rw [hbefore] at hnone
          cases hnone
      | waits hphase =>
          rw [hbefore] at hphase
          cases hphase
      | ended hmade hover => cases hover _ hbefore
  | ends phase hbefore hrunning hafter reason htale =>
      rw [htale]
      have hopened : .opened id ∈ told :=
        ((hl.mem_running_iff h).mp (h.mem_running_iff.mpr ⟨phase, hbefore, hrunning⟩)).1
      refine .ended (hmoved.isCreated hafter) ?_ (List.mem_append_left _ hopened)
        ⟨reason, List.mem_append_right _ (List.mem_singleton.mpr rfl)⟩ ?_
      · intro next hnext
        rw [hafter] at hnext
        cases hnext
        rfl
      · rw [takenOn_append, framesOn_append]
        show framesOn id told ++ [] <+: takenOn id told ++ []
        rw [List.append_nil, List.append_nil]
        exact hl.framesOn_takenOn
  | leaves hcreated hbefore hafter htale =>
      rw [htale, List.append_nil]
      cases hl with
      | ended hmade hover hopened hended hframes =>
          refine .ended hcreated ?_ hopened hended hframes
          rw [hafter]
          exact fun _ heq => by cases heq
      | unopened hnot hnone =>
          rw [hbefore] at hnone
          cases hnone
      | waits hphase =>
          rw [hbefore] at hphase
          cases hphase
      | writes other hphase =>
          rw [hbefore] at hphase
          cases hphase

/-- **The tale of a stream tells where in its life it is**, whatever moves are made. -/
theorem Lives.run (hl : Lives id server told) (h : Roll cut server) (moves : List ServerMove) :
    Lives id (server.run moves).1 (told ++ tale id (server.run moves).2) := by
  induction moves generalizing server told cut with
  | nil =>
      show Lives id server (told ++ [])
      rw [List.append_nil]
      exact hl
  | cons move moves ih =>
      have hsteps := steps_step h.sound h.upcoming move
      have hlater := ih (hl.turn h (h.steps hsteps) (h.turns hsteps id)) (h.steps hsteps)
      rw [List.append_assoc, ← tale_append] at hlater
      exact hlater

end Server

end ReportRelay
