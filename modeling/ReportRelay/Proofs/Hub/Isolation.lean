/-
# Answers of a subscriber

Two runs of a hub are compared that differ only in what one subscriber answers to the messages
that are handed to it (`Reanswered`): it accepts or refuses them, or panics with whatever value.
What subscribers do to the hub is the same in both runs.  A panic that escapes is one of these
things, as a removal is: that ends the publication for the one who is removed, and the panic
ends it for all.

All that the answers leave behind are the counts of accepted deliveries.  A hub whose counts are
set to zero (`uncounted`) shows what the answers do not reach, and the two runs pass through hubs
that are the same in this view, with events that are the same but for the answers of that
subscriber and the counts (`veil_acts`).

The counts differ by the subscriber alone: the result of publishing a report is the number of
those who have accepted it, and the others have accepted it in both runs or in neither.
-/
import Mathlib.Data.List.Forall2
import ReportRelay.Proofs.Hub.Handed
import ReportRelay.Proofs.Hub.Takers

namespace ReportRelay

/-! ## What answers do not reach -/

/-- A publication without its count. -/
def Publication.uncounted (publication : Publication) : Publication :=
  { publication with accepted := 0 }

/-- A replay without its count. -/
def Replay.uncounted (replay : Replay) : Replay := { replay with accepted := 0 }

/-- A bus without counts. -/
def Bus.uncounted (bus : Bus) : Bus :=
  { bus with running := bus.running.map Publication.uncounted }

/-- A hub without counts. -/
def Hub.uncounted (hub : Hub) : Hub :=
  { hub with bus := hub.bus.uncounted, replay := hub.replay.map Replay.uncounted }

/-- An event without the answer of a subscriber and without counts. -/
def HubEvent.veil (id : SubscriptionId) : HubEvent → HubEvent
  | .finished other outcome => .finished other (if other = id then .refused .closed else outcome)
  | .ingested message _ => .ingested message 0
  | .attached other _ => .attached other 0
  | event => event

/-- A hub that has moved and what can be seen of it, without the answers of a subscriber and
without counts. -/
def veil (id : SubscriptionId) (moved : Hub × List HubEvent) : Hub × List HubEvent :=
  (moved.1.uncounted, moved.2.map (HubEvent.veil id))

/-- What comes of a move of a bus, without the answers of a subscriber and without counts. -/
def Bus.veil (id : SubscriptionId) (moved : Bus × List BusEvent) : Bus × List HubEvent :=
  (moved.1.uncounted, (moved.2.map HubEvent.ofBus).map (HubEvent.veil id))

/-! ## Moves under the veil -/

/-- Two outcomes are seen to differ only if they are not those of the subscriber. -/
theorem veil_finished {id current : SubscriptionId} {outcome answer : Outcome}
    (h : outcome = answer ∨ current = id) :
    (HubEvent.finished current outcome).veil id = (HubEvent.finished current answer).veil id := by
  rcases h with rfl | rfl
  · rfl
  · simp [HubEvent.veil]

namespace Bus

variable {bus twin : Bus}

/-- Buses are the same without counts if their publications are. -/
theorem uncounted_eq_iff : bus.uncounted = twin.uncounted ↔
    bus.nextId = twin.nextId ∧ bus.registered = twin.registered ∧ bus.retired = twin.retired ∧
      bus.running.map Publication.uncounted = twin.running.map Publication.uncounted := by
  simp only [uncounted, mk.injEq]

/-- The count does not tell which subscription a bus calls. -/
theorem calling?_uncounted (bus : Bus) : bus.uncounted.calling? = bus.calling? := by
  cases hrun : bus.running <;> simp [calling?, uncounted, hrun, Publication.uncounted]

/-- A removal does the same on buses that are the same without counts. -/
theorem veil_unsubscribe (h : bus.uncounted = twin.uncounted) (viewer id : SubscriptionId) :
    veil viewer (bus.unsubscribe id) = veil viewer (twin.unsubscribe id) := by
  obtain ⟨hnext, hregistered, hretired, hrun⟩ := uncounted_eq_iff.mp h
  by_cases hid : id ∈ twin.registered
  · simp [unsubscribe, hregistered, hid, veil, uncounted, hnext, hretired, hrun]
  · simp [unsubscribe, hregistered, hid, veil, h]

/-- A turn does the same on buses that are the same without counts, whatever the count is. -/
theorem veil_turn (h : bus.uncounted = twin.uncounted) (id : SubscriptionId) (message : Message)
    (accepted other : Nat) (pending : List SubscriptionId) :
    veil id (bus.turn message accepted pending) = veil id (twin.turn message other pending) := by
  obtain ⟨hnext, hregistered, hretired, hrun⟩ := uncounted_eq_iff.mp h
  induction pending with
  | nil => simp [turn, veil, h, HubEvent.ofBus, HubEvent.veil]
  | cons next pending ih =>
      have hactive : bus.isActive next = twin.isActive next := by rw [isActive, isActive, hretired]
      rw [turn, turn, hactive]
      split
      · simp [veil, uncounted, hnext, hregistered, hretired, hrun, Publication.uncounted]
      · exact ih

/-- A publication runs on buses that are the same without counts at the same time. -/
theorem running_of_uncounted (h : bus.uncounted = twin.uncounted) {publication : Publication}
    {outer : List Publication} (hrun : bus.running = publication :: outer) :
    ∃ accepted others,
      twin.running = { publication with accepted := accepted } :: others ∧
      outer.map Publication.uncounted = others.map Publication.uncounted := by
  have hrunning := (uncounted_eq_iff.mp h).2.2.2
  rw [hrun] at hrunning
  cases htwin : twin.running with
  | nil => simp [htwin] at hrunning
  | cons other others =>
      rw [htwin, List.map_cons, List.map_cons, List.cons.injEq] at hrunning
      obtain ⟨hsame, houter⟩ := hrunning
      simp only [Publication.uncounted, Publication.mk.injEq, and_true] at hsame
      obtain ⟨hmessage, hcurrent, hpending⟩ := hsame
      refine ⟨other.accepted, others, ?_, houter⟩
      rw [hmessage, hcurrent, hpending]

/-- The end of a delivery does the same on buses that are the same without counts, also when its
outcome is another answer of the subscriber. -/
theorem veil_finish (h : bus.uncounted = twin.uncounted) {id : SubscriptionId}
    {outcome answer : Outcome}
    (hanswer : outcome = answer ∨ ∃ message, bus.calling? = some (id, message)) :
    veil id (bus.finish outcome) = veil id (twin.finish answer) := by
  obtain ⟨hnext, hregistered, hretired, hrunning⟩ := uncounted_eq_iff.mp h
  cases hrun : bus.running with
  | nil =>
      have htwin : twin.running = [] := by simpa [hrun] using hrunning
      simp [finish, hrun, htwin, veil, h]
  | cons publication outer =>
      obtain ⟨accepted, others, htwin, houter⟩ := running_of_uncounted h hrun
      have hturn := @veil_turn { bus with running := outer } { twin with running := others }
        (uncounted_eq_iff.mpr ⟨hnext, hregistered, hretired, houter⟩) id publication.message
        (publication.accepted + outcome.count) (accepted + answer.count) publication.pending
      have hcurrent : outcome = answer ∨ publication.current = id := by
        rcases hanswer with hsame | ⟨message, hcalling⟩
        · exact Or.inl hsame
        · simp only [calling?, hrun, List.head?_cons, Option.map_some, Option.some.injEq,
            Prod.mk.injEq] at hcalling
          exact Or.inr hcalling.1
      have hfinished := veil_finished hcurrent
      have hbus := congrArg Prod.fst hturn
      have hevents := congrArg Prod.snd hturn
      simp only [finish, hrun, htwin]
      exact Prod.ext hbus (congrArg₂ List.cons hfinished hevents)

end Bus

namespace Hub

variable {hub twin : Hub}

/-- Hubs are the same without counts if their buses and replays are. -/
theorem uncounted_eq_iff : hub.uncounted = twin.uncounted ↔
    hub.config = twin.config ∧ hub.history = twin.history ∧
      hub.bus.uncounted = twin.bus.uncounted ∧
      hub.replay.map Replay.uncounted = twin.replay.map Replay.uncounted ∧
      hub.handles = twin.handles := by
  simp only [uncounted, mk.injEq]

/-- Hubs that are the same without counts are busy at the same time. -/
theorem isBusy_of_uncounted (h : hub.uncounted = twin.uncounted) : hub.isBusy = twin.isBusy := by
  have hbusy : ∀ other : Hub, other.uncounted.isBusy = other.isBusy := by
    intro other
    simp [isBusy, uncounted, Bus.uncounted]
  rw [← hbusy hub, ← hbusy twin, h]

/-- Hubs that are the same without counts wait for the same delivery. -/
theorem calling?_of_uncounted (h : hub.uncounted = twin.uncounted) :
    hub.calling? = twin.calling? := by
  have hcalling : ∀ other : Hub, other.uncounted.calling? = other.calling? := by
    intro other
    cases hrun : other.replay with
    | none => simp [calling?, uncounted, hrun, Bus.calling?_uncounted]
    | some replay => simp [calling?, uncounted, hrun, Bus.uncounted, Replay.uncounted]
  rw [← hcalling hub, ← hcalling twin, h]

/-- A move of the bus does the same on hubs that are the same without counts if it does so on
their buses. -/
theorem veil_moveBus (h : hub.uncounted = twin.uncounted) {id : SubscriptionId}
    {move other : BusMove}
    (hstep : Bus.veil id (hub.bus.step move) = Bus.veil id (twin.bus.step other)) :
    veil id (hub.moveBus move) = veil id (twin.moveBus other) := by
  obtain ⟨hconfig, hhistory, -, hreplay, hhandles⟩ := uncounted_eq_iff.mp h
  have hbus : (hub.bus.step move).1.uncounted = (twin.bus.step other).1.uncounted :=
    congrArg Prod.fst hstep
  have hhub : (hub.moveBus move).1.uncounted = (twin.moveBus other).1.uncounted :=
    uncounted_eq_iff.mpr ⟨hconfig, hhistory, hbus, hreplay, hhandles⟩
  have hevents := congrArg Prod.snd hstep
  exact Prod.ext hhub hevents

/-- A replay goes on the same way on hubs that are the same without counts, whatever the count
is. -/
theorem veil_replayOn (h : hub.uncounted = twin.uncounted) (id : SubscriptionId)
    (accepted other : Nat) (pending : List Message) :
    veil id (hub.replayOn accepted pending) = veil id (twin.replayOn other pending) := by
  obtain ⟨hconfig, hhistory, hbus, -, hhandles⟩ := uncounted_eq_iff.mp h
  obtain ⟨hnext, hregistered, hretired, hrun⟩ := Bus.uncounted_eq_iff.mp hbus
  cases pending with
  | nil =>
      simp [replayOn, veil, uncounted, Bus.subscribe, Bus.uncounted, hconfig, hhistory, hnext,
        hregistered, hretired, hrun, hhandles, HubEvent.veil]
  | cons message pending =>
      simp [replayOn, veil, uncounted, hconfig, hhistory, hbus, hhandles, hnext, Replay.uncounted]

/-- Removing a subscription by its number does the same on hubs that are the same without
counts. -/
theorem veil_detach (h : hub.uncounted = twin.uncounted) (viewer id : SubscriptionId) :
    veil viewer (hub.detach id) = veil viewer (twin.detach id) :=
  veil_moveBus h (Bus.veil_unsubscribe (uncounted_eq_iff.mp h).2.2.1 viewer id)

/-- Using a handle does the same on hubs that are the same without counts. -/
theorem veil_release (h : hub.uncounted = twin.uncounted) (viewer id : SubscriptionId) :
    veil viewer (hub.release id) = veil viewer (twin.release id) := by
  obtain ⟨hconfig, hhistory, hbus, hreplay, hhandles⟩ := uncounted_eq_iff.mp h
  have hhandle : hub.handle? id = twin.handle? id := by rw [handle?, handle?, hhandles]
  unfold release
  rw [hhandle]
  split
  · have hmarked : uncounted { hub with handles := hub.handles.map (markReleased id) }
        = uncounted { twin with handles := twin.handles.map (markReleased id) } :=
      uncounted_eq_iff.mpr ⟨hconfig, hhistory, hbus, hreplay, by rw [hhandles]⟩
    exact veil_detach hmarked viewer id
  · simp [veil, h]

/-- Discarding a handle does the same on hubs that are the same without counts. -/
theorem veil_discard (h : hub.uncounted = twin.uncounted) (viewer id : SubscriptionId) :
    veil viewer (hub.discard id) = veil viewer (twin.discard id) := by
  have hrelease := veil_release h viewer id
  have hhub : (hub.release id).1.uncounted = (twin.release id).1.uncounted :=
    congrArg Prod.fst hrelease
  obtain ⟨hconfig, hhistory, hbus, hreplay, hhandles⟩ := uncounted_eq_iff.mp hhub
  have hdiscard : (hub.discard id).1.uncounted = (twin.discard id).1.uncounted := by
    refine uncounted_eq_iff.mpr ⟨hconfig, hhistory, hbus, hreplay, ?_⟩
    simp only [discard, hhandles]
  have hevents := congrArg Prod.snd hrelease
  exact Prod.ext hdiscard hevents

/-- A replay runs on hubs that are the same without counts at the same time. -/
theorem replay_of_uncounted (h : hub.uncounted = twin.uncounted) {replay : Replay}
    (hrun : hub.replay = some replay) :
    ∃ accepted, twin.replay = some { replay with accepted := accepted } := by
  have hreplay := (uncounted_eq_iff.mp h).2.2.2.1
  rw [hrun] at hreplay
  cases htwin : twin.replay with
  | none => simp [htwin] at hreplay
  | some other =>
      simp only [htwin, Option.map_some, Option.some.injEq, Replay.uncounted, Replay.mk.injEq,
        and_true] at hreplay
      refine ⟨other.accepted, ?_⟩
      rw [hreplay.1, hreplay.2]

/-- The end of a delivery does the same on hubs that are the same without counts, also when its
outcome is another answer of the subscriber. -/
theorem veil_finish (h : hub.uncounted = twin.uncounted) {id : SubscriptionId}
    {outcome answer : Outcome}
    (hanswer : outcome = answer ∨ ∃ message, hub.calling? = some (id, message)) :
    veil id (hub.finish outcome) = veil id (twin.finish answer) := by
  obtain ⟨-, -, hbus, hreplay, -⟩ := uncounted_eq_iff.mp h
  have hnext : hub.bus.nextId = twin.bus.nextId := (Bus.uncounted_eq_iff.mp hbus).1
  cases hrun : hub.replay with
  | none =>
      have htwin : twin.replay = none := by simpa [hrun] using hreplay.symm
      have hcalling : hub.calling? = hub.bus.calling? := by simp only [calling?, hrun]
      rw [hcalling] at hanswer
      have hmoved : veil id (hub.moveBus (.finish outcome))
          = veil id (twin.moveBus (.finish answer)) :=
        veil_moveBus h (Bus.veil_finish hbus hanswer)
      simpa only [finish, hrun, htwin] using hmoved
  | some replay =>
      obtain ⟨accepted, htwin⟩ := replay_of_uncounted h hrun
      have hnextReplay := veil_replayOn h id (replay.accepted + outcome.count)
        (accepted + answer.count) replay.pending
      have hcurrent : outcome = answer ∨ twin.bus.nextId = id := by
        rcases hanswer with hsame | ⟨message, hcalling⟩
        · exact Or.inl hsame
        · simp only [calling?, hrun, Option.some.injEq, Prod.mk.injEq, hnext] at hcalling
          exact Or.inr hcalling.1
      have hfinished := veil_finished hcurrent
      have hhub := congrArg Prod.fst hnextReplay
      have hevents := congrArg Prod.snd hnextReplay
      simp only [finish, hrun, htwin, hnext]
      exact Prod.ext hhub (congrArg₂ List.cons hfinished hevents)

/-- **A move does the same on hubs that are the same without counts.** -/
theorem veil_step (h : hub.uncounted = twin.uncounted) (id : SubscriptionId) (move : HubMove) :
    veil id (hub.step move) = veil id (twin.step move) := by
  obtain ⟨hconfig, hhistory, hbus, hreplay, hhandles⟩ := uncounted_eq_iff.mp h
  have hstay : veil id (hub, []) = veil id (twin, []) := by simp [veil, h]
  cases move with
  | ingest report =>
      rw [step, step, isBusy_of_uncounted h]
      split
      · exact hstay
      · have hpush : uncounted { hub with history := hub.history.push (.newReport report) }
            = uncounted { twin with history := twin.history.push (.newReport report) } :=
          uncounted_eq_iff.mpr ⟨hconfig, by rw [hhistory], hbus, hreplay, hhandles⟩
        refine veil_moveBus hpush ?_
        have hregistered : hub.bus.registered = twin.bus.registered :=
          (Bus.uncounted_eq_iff.mp hbus).2.1
        simp only [Bus.step, hregistered]
        exact Bus.veil_turn hbus id _ 0 0 _
  | attach =>
      rw [step, step, isBusy_of_uncounted h, hhistory]
      split
      · exact hstay
      · exact veil_replayOn h id 0 0 _
  | detach other => exact veil_detach h id other
  | release other => exact veil_release h id other
  | discard other => exact veil_discard h id other
  | finish outcome => exact veil_finish h (Or.inl rfl)

/-- A hub that gives up is the same without counts as another that does. -/
theorem uncounted_giveUp (h : hub.uncounted = twin.uncounted) :
    hub.giveUp.uncounted = twin.giveUp.uncounted := by
  obtain ⟨hconfig, hhistory, hbus, -, hhandles⟩ := uncounted_eq_iff.mp h
  obtain ⟨hnext, hregistered, hretired, hrun⟩ := Bus.uncounted_eq_iff.mp hbus
  have htail := congrArg List.tail hrun
  rw [← List.map_tail, ← List.map_tail] at htail
  exact uncounted_eq_iff.mpr ⟨hconfig, hhistory,
    Bus.uncounted_eq_iff.mpr ⟨hnext, hregistered, hretired, htail⟩, rfl, hhandles⟩

/-- An escaped panic does the same on hubs that are the same without counts, also when it is
another panic of the subscriber. -/
theorem veil_escape (h : hub.uncounted = twin.uncounted) {id : SubscriptionId}
    {info other : Option String}
    (hanswer : info = other ∨ ∃ message, hub.calling? = some (id, message)) :
    veil id (hub.escape info) = veil id (twin.escape other) := by
  have hcalling := calling?_of_uncounted h
  cases hcall : hub.calling? with
  | none =>
      rw [escape_of_none hcall, escape_of_none (hcalling.symm.trans hcall)]
      simp [veil, h]
  | some call =>
      have hcurrent : Outcome.panicked info = .panicked other ∨ call.1 = id := by
        rcases hanswer with rfl | ⟨message, heq⟩
        · exact Or.inl rfl
        · rw [hcall] at heq
          exact Or.inr (congrArg Prod.fst (Option.some.inj heq))
      rw [escape_eq hcall, escape_eq (hcalling.symm.trans hcall)]
      exact Prod.ext (uncounted_giveUp h) (congrArg (· :: _) (veil_finished hcurrent))

/-- Whatever happens to hubs that are the same without counts does the same. -/
theorem veil_act (h : hub.uncounted = twin.uncounted) (id : SubscriptionId) (act : HubAct) :
    veil id (hub.act act) = veil id (twin.act act) := by
  cases act with
  | move move => exact veil_step h id move
  | escape info => exact veil_escape h (Or.inl rfl)

/-! ## Runs under the veil -/

/-- What happens to a hub in another run that differs from a run in the answers of a subscriber
alone. -/
inductive Reanswered (id : SubscriptionId) : Hub → List HubAct → List HubAct → Prop
  /-- Nothing happens. -/
  | nil {hub : Hub} : Reanswered id hub [] []
  /-- The same happens. -/
  | same {hub : Hub} {act : HubAct} {acts others : List HubAct}
      (hlater : Reanswered id (hub.act act).1 acts others) :
      Reanswered id hub (act :: acts) (act :: others)
  /-- The subscriber gives another answer to a message that was handed to it. -/
  | answer {hub : Hub} {message : Message} {outcome other : Outcome} {acts others : List HubAct}
      (hcalling : hub.calling? = some (id, message))
      (hlater : Reanswered id (hub.act (.move (.finish outcome))).1 acts others) :
      Reanswered id hub (.move (.finish outcome) :: acts) (.move (.finish other) :: others)
  /-- The subscriber panics over a message that was handed to it, with another value; both panics
  escape. -/
  | escape {hub : Hub} {message : Message} {info other : Option String} {acts others : List HubAct}
      (hcalling : hub.calling? = some (id, message))
      (hlater : Reanswered id (hub.act (.escape info)).1 acts others) :
      Reanswered id hub (.escape info :: acts) (.escape other :: others)

/-- The beginnings of such runs differ in the answers alone. -/
theorem Reanswered.take {id : SubscriptionId} {acts others : List HubAct}
    (h : Reanswered id hub acts others) (count : Nat) :
    Reanswered id hub (acts.take count) (others.take count) := by
  induction h generalizing count with
  | nil => simpa using .nil
  | same hlater ih =>
      cases count with
      | zero => exact .nil
      | succ count => exact .same (ih count)
  | answer hcalling hlater ih =>
      cases count with
      | zero => exact .nil
      | succ count => exact .answer hcalling (ih count)
  | escape hcalling hlater ih =>
      cases count with
      | zero => exact .nil
      | succ count => exact .escape hcalling (ih count)

/-- What follows on acts with the same veil, and has the same veil, has it with them. -/
theorem veil_acts_cons {id : SubscriptionId} {act other : HubAct} {acts others : List HubAct}
    (hact : veil id (hub.act act) = veil id (twin.act other))
    (hlater : veil id ((hub.act act).1.actAll acts)
      = veil id ((twin.act other).1.actAll others)) :
    veil id (hub.actAll (act :: acts)) = veil id (twin.actAll (other :: others)) := by
  have hhub := congrArg Prod.fst hlater
  have hevents := congrArg₂ List.append (congrArg Prod.snd hact) (congrArg Prod.snd hlater)
  refine Prod.ext hhub ?_
  simp only [veil, actAll, List.map_append]
  exact hevents

/-- **Runs that differ in the answers of a subscriber alone show the same but for these answers
and for counts.** -/
theorem veil_acts {id : SubscriptionId} {acts others : List HubAct}
    (hacts : Reanswered id hub acts others) (h : hub.uncounted = twin.uncounted) :
    veil id (hub.actAll acts) = veil id (twin.actAll others) := by
  induction hacts generalizing twin with
  | nil => simp [veil, actAll, h]
  | @same hub act acts others hlater ih =>
      have hact := veil_act h id act
      exact veil_acts_cons hact (ih (congrArg Prod.fst hact))
  | @answer hub message outcome other acts others hcalling hlater ih =>
      have hact : veil id (hub.act (.move (.finish outcome)))
          = veil id (twin.act (.move (.finish other))) :=
        veil_finish h (Or.inr ⟨message, hcalling⟩)
      exact veil_acts_cons hact (ih (congrArg Prod.fst hact))
  | @escape hub message info other acts others hcalling hlater ih =>
      have hact : veil id (hub.act (.escape info)) = veil id (twin.act (.escape other)) :=
        veil_escape h (Or.inr ⟨message, hcalling⟩)
      exact veil_acts_cons hact (ih (congrArg Prod.fst hact))

end Hub

/-! ## What the others notice -/

/-- A published report without its result and without a subscriber who may have accepted it. -/
def Ingestion.veil (id : SubscriptionId) (ingestion : Ingestion) : Ingestion :=
  ⟨ingestion.message, 0, ingestion.takers.filter (· != id)⟩

/-- Under the veil a subscriber accepts nothing. -/
theorem takers_veil (id : SubscriptionId) (takers : List SubscriptionId) (event : HubEvent) :
    (event.veil id).takers (takers.filter (· != id)) = (event.takers takers).filter (· != id) := by
  cases event with
  | finished other outcome =>
      by_cases hid : other = id
      · cases outcome <;> simp [HubEvent.veil, HubEvent.takers, Outcome.isAccepted, hid]
      · cases outcome <;> simp [HubEvent.veil, HubEvent.takers, Outcome.isAccepted, hid]
  | _ => rfl

/-- Published reports are seen through the veil but for their results and the subscriber. -/
theorem ingestionsFrom_veil (id : SubscriptionId) (takers : List SubscriptionId)
    (events : List HubEvent) :
    ingestionsFrom (takers.filter (· != id)) (events.map (HubEvent.veil id))
      = (ingestionsFrom takers events).map (Ingestion.veil id) := by
  induction events generalizing takers with
  | nil => rfl
  | cons event events ih =>
      have hevent : (event.veil id).ingestion? (takers.filter (· != id))
          = (event.ingestion? takers).map (Ingestion.veil id) := by
        cases event <;> rfl
      have htoList : ((event.ingestion? takers).map (Ingestion.veil id)).toList
          = (event.ingestion? takers).toList.map (Ingestion.veil id) := by
        cases event <;> rfl
      rw [List.map_cons, ingestionsFrom, ingestionsFrom, hevent, takers_veil, ih, htoList,
        List.map_append]

/-- What a subscriber adds to the result of publishing a report. -/
def Ingestion.share (id : SubscriptionId) (ingestion : Ingestion) : Nat :=
  if id ∈ ingestion.takers then 1 else 0

/-- Two results of publishing a report differ by the share of a subscriber. -/
def Ingestion.DiffersBy (id : SubscriptionId) (ingestion other : Ingestion) : Prop :=
  ingestion.message = other.message ∧
    ingestion.accepted + other.share id = other.accepted + ingestion.share id

/-- An exact result is made of the share of a subscriber and those of the others. -/
theorem Ingestion.Exact.accepted_eq {ingestion : Ingestion} (h : ingestion.Exact)
    (id : SubscriptionId) :
    ingestion.accepted = (ingestion.veil id).takers.length + ingestion.share id := by
  have hothers : (ingestion.veil id).takers = ingestion.takers.erase id :=
    (h.2.erase_eq_filter id).symm
  rw [h.1, hothers, List.length_erase, Ingestion.share]
  by_cases hid : id ∈ ingestion.takers
  · have hpos : 0 < ingestion.takers.length := List.length_pos_of_mem hid
    simp only [hid, if_true]
    omega
  · simp only [hid, if_false, Nat.add_zero]

namespace Hub

/-- The results of two runs that differ in the answers of a subscriber alone differ by the share
of that subscriber. -/
theorem Reanswered.results {id : SubscriptionId} {config : HubConfig}
    {acts others : List HubAct} (h : Reanswered id (ofConfig config) acts others) :
    List.Forall₂ (Ingestion.DiffersBy id) (ingestions ((ofConfig config).actAll acts).2)
      (ingestions ((ofConfig config).actAll others).2) := by
  have hevents := congrArg Prod.snd (veil_acts h rfl)
  have hveil : (ingestions ((ofConfig config).actAll acts).2).map (Ingestion.veil id)
      = (ingestions ((ofConfig config).actAll others).2).map (Ingestion.veil id) := by
    rw [ingestions, ingestions, ← ingestionsFrom_veil, ← ingestionsFrom_veil]
    exact congrArg (ingestionsFrom _) hevents
  rw [← List.forall₂_eq_eq_eq, List.forall₂_map_left_iff, List.forall₂_map_right_iff,
    List.forall₂_iff_zip] at hveil
  refine List.forall₂_iff_zip.mpr ⟨hveil.1, fun {result other} hmem => ?_⟩
  have hsame := hveil.2 hmem
  have hresult := (exact_of_acts config acts result (List.of_mem_zip hmem).1).accepted_eq id
  have hother := (exact_of_acts config others other (List.of_mem_zip hmem).2).accepted_eq id
  rw [hsame] at hresult
  have hmessage := congrArg Ingestion.message hsame
  exact ⟨hmessage, by omega⟩

end Hub

end ReportRelay
