/-
# The room of a viewer

A viewer whose queue has the room that the settings of the hub ask for can take its whole
replay before it receives anything, since the hub keeps no more reports than that.  From then on
its queue overflows exactly when a report reaches it while as many wait as there is room for.

What waits is what was handed to the viewer and not received.  The hub keeps pace for the
viewer, so this is also told by the numbers of reports that were kept when it was attached, that
have been taken since, and that it has received (`room_of_run`).
-/
import ReportRelay.Proofs.Hub.Pace
import ReportRelay.Proofs.Relay.Ending

namespace ReportRelay

/-- The queue of a viewer has room for all reports that the hub keeps. -/
theorem HubConfig.cache_le_queue (config : HubConfig) : config.cache ≤ config.queue :=
  (Nat.le_max_right _ _).trans (Nat.le_max_left _ _)

namespace Queue

variable {α : Type} {capacity : Nat} {queue : Queue α}

/-! ## Room in a queue -/

/-- The queue has the given room, not more than which is taken up, and somebody who may receive
from it. -/
structure Roomy (capacity : Nat) (queue : Queue α) : Prop where
  capacity_eq : queue.capacity = capacity
  waiting_le : queue.waiting.length ≤ capacity
  receiver : queue.receiverOpen = true

/-- A new queue has the room that it was asked to have. -/
theorem roomy_ofCapacity (hcapacity : 0 < capacity) :
    (ofCapacity capacity : Queue α).Roomy capacity where
  capacity_eq := Nat.max_eq_left hcapacity
  waiting_le := Nat.zero_le capacity
  receiver := rfl

/-- Giving up the delivering end takes no room. -/
theorem Roomy.sweep (h : queue.Roomy capacity) (held : Bool) :
    (if held then queue else queue.dropSink).Roomy capacity := by
  cases held with
  | true => exact h
  | false => exact { h with }

/-- Receiving takes no room, and does not make a queue overflow. -/
theorem Roomy.receive (h : queue.Roomy capacity) :
    queue.receive.1.Roomy capacity ∧ queue.receive.1.lagged = queue.lagged := by
  unfold Queue.receive
  split
  · exact ⟨h, rfl⟩
  · split
    · next item rest hwaiting =>
        have hle := h.waiting_le
        rw [hwaiting, List.length_cons] at hle
        exact ⟨{ h with waiting_le := Nat.le_of_succ_le hle }, rfl⟩
    · exact ⟨h, rfl⟩

/-- A delivery takes up one place, or makes a full queue overflow. -/
theorem Roomy.deliver (h : queue.Roomy capacity) (item : α) :
    (queue.deliver item).1.Roomy capacity ∧
      ((queue.deliver item).1.lagged = true
        ↔ queue.lagged = true ∨ capacity ≤ queue.waiting.length) := by
  unfold Queue.deliver
  split
  · next hlag => exact ⟨h, by simp [hlag]⟩
  · next hlag =>
      rw [if_neg (by simp [h.receiver])]
      split
      · next hfull =>
          rw [h.capacity_eq] at hfull
          exact ⟨{ h with }, by simp [hfull]⟩
      · next hroom =>
          rw [h.capacity_eq] at hroom
          refine ⟨{ h with waiting_le := ?_ }, by simp [hlag, hroom]⟩
          show (queue.waiting ++ [item]).length ≤ capacity
          rw [List.length_append, List.length_singleton]
          omega

/-- A delivery that does not make a queue overflow is accepted. -/
theorem Roomy.deliver_accepted (h : queue.Roomy capacity) {item : α}
    (hlag : (queue.deliver item).1.lagged = false) : (queue.deliver item).2 = .accepted := by
  unfold Queue.deliver at hlag ⊢
  split
  · next hbefore =>
      rw [if_pos hbefore, hbefore] at hlag
      cases hlag
  · next hbefore =>
      rw [if_neg hbefore] at hlag
      rw [if_neg (by simp [h.receiver])] at hlag ⊢
      split
      · next hfull =>
          rw [if_pos hfull] at hlag
          cases hlag
      · rfl

/-- What was handed to a queue was received, waits, or is in hand. -/
theorem Serves.length_handed {held : Bool} {handed inHand got : List α} {overflowed : Prop}
    (h : queue.Serves held handed inHand got overflowed) (hlag : queue.lagged = false)
    (hroomy : queue.Roomy capacity) :
    handed.length = got.length + queue.waiting.length + inHand.length := by
  rw [h.complete hlag hroomy.receiver, List.length_append, List.length_append]

end Queue

namespace Relay

variable {config : HubConfig} {relay : Relay} {events : List RelayEvent} {id : SubscriptionId}
  {queue : Queue Message} {capacity : Nat}

/-! ## When a move makes a queue overflow -/

/-- A delivery to a viewer goes into its queue, which the hub may give up afterwards. -/
theorem exists_queue?_deliver (hqueue : relay.queue? id = some queue) {message : Message}
    (hcall : relay.hub.calling? = some (id, message)) :
    ∃ held : Bool, (relay.step .deliver).1.queue? id
      = some (if held then (queue.deliver message).1 else (queue.deliver message).1.dropSink) := by
  rw [step, deliver_eq (delivering?_eq_some.mpr ⟨hcall, hqueue⟩), queue?_afterHub,
    queue?_updateQueue, if_pos rfl, hqueue]
  exact ⟨_, rfl⟩

/-- A move leaves a queue its room, unless the viewer gives it up.  It makes the queue overflow
exactly if it is a delivery to the viewer, and more has been handed to the viewer than it has
received and has room for. -/
theorem Serves.exists_roomy_step (h : relay.Serves events)
    (hqueue : relay.queue? id = some queue) (hroomy : queue.Roomy capacity) {move : RelayMove}
    (hdrop : move.isDropReceiver id = false) :
    ∃ after, (relay.step move).1.queue? id = some after ∧ after.Roomy capacity ∧
      (after.lagged = true ↔ queue.lagged = true ∨
        move = .deliver ∧ ∃ message, relay.hub.calling? = some (id, message) ∧
          capacity + (got id events).length < (handed id (hubEvents events)).length) := by
  by_cases hcalled : move = .deliver ∧ ∃ message, relay.hub.calling? = some (id, message)
  · obtain ⟨rfl, message, hcall⟩ := hcalled
    obtain ⟨held, hafter⟩ := exists_queue?_deliver hqueue hcall
    obtain ⟨hroomy', hlag'⟩ := hroomy.deliver message
    refine ⟨_, hafter, hroomy'.sweep held, ?_⟩
    have hheld : (if held then (queue.deliver message).1
        else (queue.deliver message).1.dropSink).lagged = (queue.deliver message).1.lagged := by
      cases held <;> rfl
    rw [hheld, hlag']
    cases hlag : queue.lagged with
    | true => simp
    | false =>
        -- nothing was lost so far, so all that was handed over but for this message waits
        have hlength := (h.queue id queue hqueue).length_handed hlag hroomy
        rw [Hub.inHand_of_calling hcall, if_pos rfl, List.length_singleton] at hlength
        have hfull : capacity ≤ queue.waiting.length
            ↔ capacity + (got id events).length < (handed id (hubEvents events)).length := by
          omega
        rw [hfull]
        simp [hcall]
  · obtain ⟨after, hafter, hstep⟩ := exists_queue?_step hqueue move
    generalize received id (relay.step move).2 = what at hstep
    have hsame : after.Roomy capacity ∧ after.lagged = queue.lagged := by
      cases hstep with
      | receive => exact hroomy.receive
      | dropReceiver => simp [RelayMove.isDropReceiver] at hdrop
      | deliver message held hcall => exact absurd ⟨rfl, message, hcall⟩ hcalled
      | stay held hreceive hnot =>
          refine ⟨hroomy.sweep held, ?_⟩
          cases held <;> rfl
    refine ⟨after, hafter, hsame.1, ?_⟩
    rw [hsame.2]
    constructor
    · exact Or.inl
    · rintro (hlag | ⟨hmove, message, hcall, -⟩)
      · exact hlag
      · exact absurd ⟨hmove, message, hcall⟩ hcalled

/-! ## What a relay takes -/

/-- The report that the hub of a relay takes in a move. -/
def taken? (relay : Relay) (move : RelayMove) : Option Json :=
  (relay.hubMove? move).bind relay.hub.taken?

/-- The reports that the hub of a relay takes in the course of moves. -/
def taken (relay : Relay) : List RelayMove → List Json
  | [] => []
  | move :: moves => (relay.taken? move).toList ++ taken (relay.step move).1 moves

/-- Moves may be made in two runs. -/
theorem taken_append (relay : Relay) (moves later : List RelayMove) :
    relay.taken (moves ++ later) = relay.taken moves ++ (relay.run moves).1.taken later := by
  induction moves generalizing relay with
  | nil => rfl
  | cons move moves ih => simp [taken, run, ih]

/-- A move of a relay leaves its hub as it is, or is one move of it. -/
theorem step_hub_cases (relay : Relay) (move : RelayMove) :
    (relay.hubMove? move = none ∧ (relay.step move).1.hub = relay.hub ∧
        hubEvents (relay.step move).2 = []) ∨
      ∃ moved, relay.hubMove? move = some moved ∧
        (relay.step move).1.hub = (relay.hub.step moved).1 ∧
        hubEvents (relay.step move).2 = (relay.hub.step moved).2 := by
  have hstep := step_hub relay move
  cases hmove : relay.hubMove? move with
  | none =>
      rw [hmove] at hstep
      exact Or.inl ⟨rfl, congrArg Prod.fst hstep, congrArg Prod.snd hstep⟩
  | some moved =>
      simp only [hmove, Option.toList_some, Hub.run, List.append_nil] at hstep
      exact Or.inr ⟨moved, rfl, congrArg Prod.fst hstep, congrArg Prod.snd hstep⟩

/-- The ledger of a relay notes as published what its hub takes. -/
theorem published_noteAll (ledger : Ledger) (relay : Relay) (moves : List RelayMove) :
    (ledger.noteAll relay.hub (relay.hubMoves moves)).published
      = ledger.published ++ relay.taken moves := by
  have hnote : ∀ (ledger : Ledger) (hub : Hub) (move : HubMove),
      (ledger.note hub move).published = ledger.published ++ (hub.taken? move).toList := by
    intro ledger hub move
    unfold Ledger.note Hub.taken?
    cases move <;> simp only [Option.toList_none, List.append_nil] <;> split <;>
      simp [Ledger.publish, Ledger.join, Ledger.leave]
  induction moves generalizing ledger relay with
  | nil => simp [hubMoves, Ledger.noteAll, taken]
  | cons move moves ih =>
      have hlater := fun ledger => ih ledger (relay.step move).1
      rw [hubMoves, taken, taken?]
      rcases step_hub_cases relay move with ⟨hnone, hhub, -⟩ | ⟨moved, hsome, hhub, -⟩
      · rw [hhub] at hlater
        rw [hnone]
        exact hlater ledger
      · rw [hhub] at hlater
        rw [hsome, Option.toList_some, List.singleton_append, Ledger.noteAll, hlater, hnote,
          List.append_assoc, Option.bind_some]

/-- Only the queue of a viewer ends a delivery to it. -/
theorem outcome_of_hubMove? (hqueue : relay.queue? id = some queue) {message : Message}
    (hcall : relay.hub.calling? = some (id, message)) {move : RelayMove} {outcome : Outcome}
    (hmove : relay.hubMove? move = some (.finish outcome)) :
    move = .deliver ∧ outcome = (queue.deliver message).2 := by
  have hdelivering := delivering?_eq_some.mpr ⟨hcall, hqueue⟩
  cases move with
  | hub move =>
      cases move with
      | finish ended => simp [hubMove?, hdelivering] at hmove
      | _ => simp [hubMove?] at hmove
  | attachViewer capacity => simp [hubMove?] at hmove
  | deliver =>
      rw [hubMove?, hdelivering, Option.map_some, Option.some.injEq, HubMove.finish.injEq] at hmove
      exact ⟨rfl, hmove.symm⟩
  | receive other => simp [hubMove?] at hmove
  | dropReceiver other => simp [hubMove?] at hmove

/-! ## The invariant -/

/-- A viewer was attached when the hub kept `kept` messages, with the room that the settings
ask for; `past` is what was seen before, `events` what has been seen since, and `taken` the number
of reports that the hub has taken since. -/
structure Room (config : HubConfig) (id : SubscriptionId) (kept : Nat) (past : List RelayEvent)
    (taken : Nat) (events : List RelayEvent) (relay : Relay) (queue : Queue Message) : Prop where
  /-- The queues of the relay have served the viewers. -/
  serves : relay.Serves (past ++ events)
  /-- The viewer is a new one. -/
  fresh : handed id (hubEvents past) = [] ∧ got id past = []
  /-- The replay fits into the queue. -/
  kept_le : kept ≤ config.queue
  /-- The hub keeps pace for the viewer. -/
  paced : relay.hub.Paced id kept taken (handed id (hubEvents events)).length
  /-- It attaches the viewer, or has done so. -/
  attaches : relay.hub.Attaches id kept (hubEvents events)
  /-- The queue is there. -/
  queue_eq : relay.queue? id = some queue
  /-- It has the room that the settings ask for. -/
  roomy : queue.Roomy config.queue
  /-- It does not overflow unless reports are taken. -/
  calm : taken = 0 → queue.lagged = false

variable {kept taken : Nat} {past : List RelayEvent}

/-- An idle relay that attaches a viewer has room for it. -/
theorem Serves.exists_room (h : relay.Serves past) (hidle : relay.hub.isBusy = false)
    (hkept : relay.hub.history.items.length ≤ config.queue) :
    ∃ queue, (relay.step (.attachViewer config.queue)).1.queue? relay.hub.bus.nextId = some queue ∧
      Room config relay.hub.bus.nextId relay.hub.history.items.length past 0
        (relay.step (.attachViewer config.queue)).2
        (relay.step (.attachViewer config.queue)).1 queue := by
  have hnone := h.queue?_nextId hidle
  have hpos : 0 < config.queue := config.cache_pos.trans_le config.cache_le_queue
  have hserves := h.step (.attachViewer config.queue)
  have hstep : relay.step (.attachViewer config.queue)
      = afterHub { relay with
          queues := relay.queues ++ [(relay.hub.bus.nextId, Queue.ofCapacity config.queue)] }
          (relay.hub.step .attach) := by
    rw [Relay.step, Relay.attachViewer, hidle]
    rfl
  rw [hstep] at hserves ⊢
  -- the queue is new, and the hub may give it up if it keeps nothing
  refine ⟨if holds (relay.hub.step .attach).1 relay.hub.bus.nextId
      then Queue.ofCapacity config.queue else (Queue.ofCapacity config.queue).dropSink, ?_, ?_⟩
  · rw [queue?_afterHub, queue?_append, hnone, if_pos rfl]
    rfl
  · have hhanded := (h.unknown _ (Hub.not_isKnown_nextId hidle)).1
    refine ⟨hserves, ⟨hhanded, ?_⟩, hkept, ?_, ?_, ?_, ?_, fun _ => ?_⟩
    · rw [got, h.others _ hnone]
      rfl
    · rw [afterHub, hubEvents_map_hub]
      exact h.sound.paced_attach hidle
    · rw [afterHub, hubEvents_map_hub]
      exact Hub.attaches_attach hidle
    · rw [queue?_afterHub, queue?_append, hnone, if_pos rfl]
      rfl
    · exact (Queue.roomy_ofCapacity hpos).sweep _
    · split <;> rfl

/-- A delivery to the viewer is accepted while it is being attached. -/
theorem Room.accepted (h : Room config id kept past taken events relay queue)
    {message : Message} (hcall : relay.hub.calling? = some (id, message))
    (hjoin : relay.hub.IsJoining id) : (queue.deliver message).2 = .accepted := by
  have htaken := h.paced.joining hjoin
  have hlag := h.calm htaken
  have hlength := (h.serves.queue id queue h.queue_eq).length_handed hlag h.roomy
  rw [hubEvents_append, handed_append, h.fresh.1, List.nil_append, Hub.inHand_of_calling hcall,
    if_pos rfl, List.length_singleton] at hlength
  -- no more is handed over than was kept
  have hbalance := h.paced.balance (Or.inl (Or.inr hjoin))
  have hkept := h.kept_le
  refine h.roomy.deliver_accepted ?_
  rw [← Bool.not_eq_true, (h.roomy.deliver message).2, hlag]
  rintro (hfalse | hfull)
  · cases hfalse
  · omega

/-- A report that reaches the viewer finds its queue full: more reports were kept and have been
taken than it has received and has room for. -/
def Overruns (config : HubConfig) (id : SubscriptionId) (kept taken : Nat)
    (events : List RelayEvent) (relay : Relay) : Prop :=
  (∃ message, relay.hub.calling? = some (id, message)) ∧
    .hub (.attached id kept) ∈ events ∧ config.queue + (got id events).length < kept + taken

/-- While a message is delivered to the viewer, more has been handed to it than there is room for
exactly if a report overruns its queue. -/
theorem Room.overruns_iff (h : Room config id kept past taken events relay queue) :
    (∃ message, relay.hub.calling? = some (id, message) ∧
        config.queue + (got id (past ++ events)).length
          < (handed id (hubEvents (past ++ events))).length)
      ↔ Overruns config id kept taken events relay := by
  rw [got_append, h.fresh.2, hubEvents_append, handed_append, h.fresh.1, List.nil_append,
    List.nil_append]
  have hkept := h.kept_le
  have hhand : ∀ message, relay.hub.calling? = some (id, message) → relay.hub.inHand id ≠ [] := by
    intro message hcall
    rw [Hub.inHand_of_calling hcall, if_pos rfl]
    exact List.cons_ne_nil _ _
  constructor
  · rintro ⟨message, hcall, hmore⟩
    have hjoin : ¬relay.hub.IsJoining id := by
      intro hjoin
      have htaken := h.paced.joining hjoin
      have hbalance := h.paced.balance (Or.inl (Or.inr hjoin))
      omega
    rw [h.paced.given_of_inHand h.serves.sound hjoin (hhand message hcall)] at hmore
    exact ⟨⟨message, hcall⟩, mem_hubEvents.mp (h.attaches.returned hjoin), hmore⟩
  · rintro ⟨⟨message, hcall⟩, -, hmore⟩
    have hjoin : ¬relay.hub.IsJoining id := by
      intro hjoin
      have htaken := h.paced.joining hjoin
      omega
    rw [← h.paced.given_of_inHand h.serves.sound hjoin (hhand message hcall)] at hmore
    exact ⟨message, hcall, hmore⟩

/-- What was kept and taken for a registered viewer of an idle hub has been received or waits. -/
theorem Room.kept_add_taken_le (h : Room config id kept past taken events relay queue)
    (hidle : relay.hub.isBusy = false) (hreg : id ∈ relay.hub.bus.registered)
    (hlag : queue.lagged = false) :
    kept + taken ≤ (got id events).length + config.queue := by
  have hlength := (h.serves.queue id queue h.queue_eq).length_handed hlag h.roomy
  rw [got_append, h.fresh.2, hubEvents_append, handed_append, h.fresh.1, List.nil_append,
    List.nil_append, Hub.inHand_of_none (Hub.calling?_idle hidle), List.length_nil] at hlength
  have hbalance := h.paced.balance (Or.inl (Or.inl hreg))
  rw [Hub.outstanding_idle hidle, List.length_nil] at hbalance
  have hwaiting := h.roomy.waiting_le
  omega

/-- **A move leaves a viewer its room, and makes its queue overflow exactly if a report overruns
it.** -/
theorem Room.exists_step (h : Room config id kept past taken events relay queue)
    (move : RelayMove) (hdrop : move.isDropReceiver id = false) :
    ∃ after,
      Room config id kept past (taken + (relay.taken? move).toList.length)
        (events ++ (relay.step move).2) (relay.step move).1 after ∧
      (after.lagged = true ↔ queue.lagged = true ∨
        move = .deliver ∧ Overruns config id kept taken events relay) := by
  obtain ⟨after, hafter, hroomy, hlag⟩ := h.serves.exists_roomy_step h.queue_eq h.roomy hdrop
  rw [h.overruns_iff] at hlag
  refine ⟨after, ?_, hlag⟩
  have hserves : (relay.step move).1.Serves (past ++ (events ++ (relay.step move).2)) := by
    rw [← List.append_assoc]
    exact h.serves.step move
  have hcalm : taken + (relay.taken? move).toList.length = 0 → after.lagged = false := by
    intro hnone
    have htaken : taken = 0 := by omega
    rw [← Bool.not_eq_true, hlag, h.calm htaken]
    rintro (hfalse | ⟨-, -, -, hmore⟩)
    · cases hfalse
    · have hkept := h.kept_le
      omega
  have hhub : (relay.step move).1.hub.Paced id kept (taken + (relay.taken? move).toList.length)
        (handed id (hubEvents (events ++ (relay.step move).2))).length ∧
      (relay.step move).1.hub.Attaches id kept (hubEvents (events ++ (relay.step move).2)) := by
    rw [hubEvents_append, handed_append, List.length_append]
    rcases step_hub_cases relay move with ⟨hmove, heq, hevents⟩ | ⟨moved, hmove, heq, hevents⟩
    · rw [taken?, hmove, heq, hevents, List.append_nil]
      exact ⟨h.paced, h.attaches⟩
    · rw [taken?, hmove, heq, hevents]
      refine ⟨h.paced.step h.serves.sound moved,
        h.attaches.step h.serves.sound h.paced.known fun outcome hfinish hjoin => ?_⟩
      -- a replayed delivery ends with what the queue gives, and the queue has room for it
      obtain ⟨replay, hreplay⟩ := Option.isSome_iff_exists.mp hjoin.1
      have hcall : relay.hub.calling? = some (id, replay.message) := by
        rw [Hub.calling?, hreplay, hjoin.2]
      rw [hfinish] at hmove
      rw [(outcome_of_hubMove? h.queue_eq hcall hmove).2]
      exact h.accepted hcall hjoin
  exact ⟨hserves, h.fresh, h.kept_le, hhub.1, hhub.2, hafter, hroomy, hcalm⟩

/-! ## Runs -/

/-- A list with one more item is split at an item where the shorter one is, or at the last. -/
theorem exists_split_concat {α : Type} {P : List α → Prop} {items : List α} {item mark : α} :
    (∃ early late, items ++ [item] = early ++ mark :: late ∧ P early)
      ↔ (∃ early late, items = early ++ mark :: late ∧ P early) ∨ (item = mark ∧ P items) := by
  constructor
  · rintro ⟨early, late, heq, hearly⟩
    rcases List.eq_nil_or_concat late with rfl | ⟨late, last, rfl⟩
    · obtain ⟨rfl, hitem⟩ := List.append_inj' heq rfl
      exact Or.inr ⟨List.singleton_inj.mp hitem, hearly⟩
    · rw [List.concat_eq_append, ← List.cons_append, ← List.append_assoc] at heq
      exact Or.inl ⟨early, late, (List.append_inj' heq rfl).1, hearly⟩
  · rintro (⟨early, late, rfl, hearly⟩ | ⟨rfl, hearly⟩)
    · exact ⟨early, late ++ [item], by simp, hearly⟩
    · exact ⟨items, [], rfl, hearly⟩

/-- A run leaves a viewer its room, and its queue has overflowed exactly if a report has overrun
it. -/
theorem Room.exists_run (h : Room config id kept past taken events relay queue)
    (hlag : queue.lagged = false) (moves : List RelayMove)
    (hmoves : ∀ move ∈ moves, move.isDropReceiver id = false) :
    ∃ after,
      Room config id kept past (taken + (relay.taken moves).length)
        (events ++ (relay.run moves).2) (relay.run moves).1 after ∧
      (after.lagged = true ↔ ∃ early late, moves = early ++ .deliver :: late ∧
        Overruns config id kept (taken + (relay.taken early).length)
          (events ++ (relay.run early).2) (relay.run early).1) := by
  -- from the end of the moves, since the overrun is a condition on what came before
  induction moves using List.reverseRecOn with
  | nil =>
      refine ⟨queue, ?_, ?_⟩
      · simpa [Relay.run, Relay.taken] using h
      · simp [hlag]
  | append_singleton moves move ih =>
      obtain ⟨before, hbefore, hiff⟩ := ih fun other hmem =>
        hmoves other (List.mem_append_left _ hmem)
      obtain ⟨after, hafter, hstep⟩ := hbefore.exists_step move (hmoves move (by simp))
      refine ⟨after, ?_, ?_⟩
      · rw [run_append, taken_append, List.length_append]
        simpa [Relay.run, Relay.taken, Nat.add_assoc] using hafter
      · rw [hstep, hiff, exists_split_concat]

/-- A replay ends after as many deliveries as are left of it. -/
theorem Room.not_isJoining_of_deliver (h : Room config id kept past taken events relay queue)
    {left : Nat} (hleft : ∀ replay, relay.hub.replay = some replay → id = relay.hub.bus.nextId →
      replay.pending.length < left) :
    ¬(relay.run (List.replicate left .deliver)).1.hub.IsJoining id := by
  induction left generalizing relay queue events taken with
  | zero =>
      rintro ⟨hsome, hid⟩
      obtain ⟨replay, hreplay⟩ := Option.isSome_iff_exists.mp hsome
      exact absurd (hleft replay hreplay hid) (Nat.not_lt_zero _)
  | succ left ih =>
      obtain ⟨after, hafter, -⟩ := h.exists_step .deliver rfl
      rw [List.replicate_succ, Relay.run]
      refine ih hafter fun replay hreplay hid => ?_
      rcases step_hub_cases relay .deliver with ⟨hmove, heq, -⟩ | ⟨moved, hmove, heq, -⟩
      · -- the viewer that is being attached is called, so something is delivered
        rw [heq] at hreplay hid
        have hcall : relay.hub.calling? = some (id, replay.message) := by
          rw [Hub.calling?, hreplay, hid]
        rw [hubMove?, delivering?_eq_some.mpr ⟨hcall, h.queue_eq⟩] at hmove
        cases hmove
      · rw [heq] at hreplay hid
        cases h.serves.sound.attachStep h.paced.known moved with
        | apart hbefore hnot hevents => exact absurd ⟨by rw [hreplay]; rfl, hid⟩ hnot
        | wait hbefore hsame hnext hne hevents =>
            rw [hubMove?, Option.map_eq_some_iff] at hmove
            obtain ⟨delivery, -, hfinish⟩ := hmove
            exact absurd hfinish.symm (hne _)
        | next hbefore hfinish hwas hpending hsame hnext hevents =>
            rw [hsame, Option.some.injEq] at hreplay
            subst hreplay
            have hlt := hleft _ hwas hbefore
            rw [hpending, List.length_cons] at hlt
            exact Nat.lt_of_succ_lt_succ hlt
        | done hbefore hfinish hwas hpending hnone hevents =>
            rw [hnone] at hreplay
            cases hreplay

/-! ## The contract -/

/-- What has been seen is still seen after further moves. -/
theorem mem_run_mono {moves later : List RelayMove} (h : moves <+: later)
    {event : RelayEvent} (hmem : event ∈ (relay.run moves).2) :
    event ∈ (relay.run later).2 := by
  obtain ⟨rest, rfl⟩ := h
  rw [run_append]
  exact List.mem_append_left _ hmem

/-- The hub of a relay keeps no more reports than fit into the queue of a viewer. -/
theorem length_cached_of_run (config : HubConfig) (moves : List RelayMove) :
    let hub := ((ofConfig config).run moves).1.hub
    hub.history.items.length = hub.cached.length ∧ hub.cached.length ≤ config.queue := by
  intro hub
  have hkeeps := Ledger.keeps_ofMoves config ((ofConfig config).hubMoves moves)
  have hrun := congrArg Prod.fst (run_hub (ofConfig config) moves)
  have hhistory := hkeeps.history
  rw [show Hub.ofConfig config = (ofConfig config).hub from rfl, ← hrun] at hhistory
  rw [Hub.cached_of_history hhistory]
  show ((ofConfig config).run moves).1.hub.history.items.length = _ ∧ _
  rw [hhistory, List.length_map]
  refine ⟨rfl, le_trans ?_ config.cache_le_queue⟩
  rw [List.rtake, List.length_drop]
  omega

/-- **A viewer always survives its replay, and then lags exactly when it is overrun.**  Whatever
an idle relay went through before it attaches a viewer with the room that the settings ask for,
the attachment returns once the kept reports are delivered, with all of them accepted, and with a
queue that has not overflowed.  As long as the viewer does not give up its queue, that has
overflowed at a point exactly if a report has reached it, after the attachment, at which the
reports kept and those taken since were more than it had received and has room for.  So if
they are more when the hub is idle again and the viewer is registered, it has overflowed. -/
theorem room_of_run (config : HubConfig) (before later : List RelayMove) :
    let relay := ((ofConfig config).run before).1
    let id := relay.hub.bus.nextId
    let kept := relay.hub.cached.length
    let viewed := fun moves => relay.run (.attachViewer config.queue :: moves)
    let taken := fun moves => (relay.taken (.attachViewer config.queue :: moves)).length
    relay.hub.isBusy = false → (∀ move ∈ later, move.isDropReceiver id = false) →
      .hub (.attached id kept) ∈ (viewed (List.replicate kept .deliver)).2 ∧
      (∀ accepted, .hub (.attached id accepted) ∈ (viewed later).2 → accepted = kept) ∧
      ∃ queue, (viewed later).1.queue? id = some queue ∧ queue.receiverOpen = true ∧
        queue.capacity = config.queue ∧
        (∀ early move, later = early ++ [move] →
          .hub (.attached id kept) ∉ (viewed early).2 → queue.lagged = false) ∧
        (queue.lagged = true ↔ ∃ early late, later = early ++ .deliver :: late ∧
          Overruns config id kept (taken early) (viewed early).2 (viewed early).1) ∧
        ((viewed later).1.hub.isBusy = false → id ∈ (viewed later).1.hub.bus.registered →
          queue.lagged = false →
            kept + taken later ≤ (got id (viewed later).2).length + config.queue) := by
  intro relay id kept viewed taken hidle hlater
  have hserves : relay.Serves ((ofConfig config).run before).2 :=
    (serves_ofConfig config).run before
  obtain ⟨hitems, hkept⟩ := length_cached_of_run config before
  have hfits : relay.hub.history.items.length ≤ config.queue := hitems.trans_le hkept
  obtain ⟨fresh, -, hroom⟩ := hserves.exists_room hidle hfits
  have hfresh := hroom.calm rfl
  rw [show relay.hub.history.items.length = kept from hitems] at hroom
  obtain ⟨queue, hqueue, hlag⟩ := hroom.exists_run hfresh later hlater
  -- the attachment itself takes no report
  have htaken : ∀ moves, ((relay.step (.attachViewer config.queue)).1.taken moves).length
      = taken moves := fun moves => rfl
  simp only [Nat.zero_add, htaken] at hqueue hlag
  refine ⟨?_, fun accepted hmem => hqueue.attaches.result accepted (mem_hubEvents.mpr hmem),
    queue, hqueue.queue_eq, hqueue.roomy.receiver, hqueue.roomy.capacity_eq, ?_, hlag, ?_⟩
  · obtain ⟨after, hafter, -⟩ :=
      hroom.exists_run hfresh (List.replicate kept .deliver) fun move hmem => by
        rw [List.eq_of_mem_replicate hmem]
        rfl
    refine mem_hubEvents.mp (hafter.attaches.returned (hroom.not_isJoining_of_deliver ?_))
    intro replay hreplay hid
    have hcount := hroom.attaches.replay replay hreplay hid
    omega
  · rintro early move rfl hnot
    rw [← Bool.not_eq_true, hlag, exists_split_concat]
    -- an overrun comes after the attachment has returned, so not before the last move
    rintro (⟨first, late, rfl, -, hmem, -⟩ | ⟨-, -, hmem, -⟩)
    · exact hnot (mem_run_mono (List.prefix_append (_ :: first) _) hmem)
    · exact hnot hmem
  · exact fun hend hreg hcalm => hqueue.kept_add_taken_le hend hreg hcalm

/-- Three reports. -/
def threeReports : List RelayMove :=
  [.hub (.ingest (.string "one")), .hub (.ingest (.string "two")), .hub (.ingest (.string "three"))]

/-- A viewer receives one of two replayed reports, a fourth report reaches it, and a fifth one is
taken. -/
def slowViewing : List RelayMove :=
  [.deliver, .receive 1, .deliver, .hub (.ingest (.string "four")), .deliver,
    .hub (.ingest (.string "five"))]

/-- With room for two messages, a viewer that has received one of two replayed reports takes a
third one, and is overrun by the fourth. -/
theorem room_of_slow_viewer :
    let relay := ((ofConfig ⟨2, 0⟩).run threeReports).1
    let viewed := relay.run (.attachViewer 2 :: (slowViewing ++ [.deliver]))
    relay.hub.isBusy = false ∧
      (∀ move ∈ slowViewing ++ [.deliver], move.isDropReceiver 1 = false) ∧
      (∀ accepted, .hub (.attached 1 accepted) ∈ viewed.2 → accepted = 2) ∧
      ∃ queue, viewed.1.queue? 1 = some queue ∧ queue.lagged = true := by
  have hmoves : ∀ move ∈ slowViewing ++ [.deliver], move.isDropReceiver 1 = false := by
    simp [slowViewing, RelayMove.isDropReceiver]
  have hroom := room_of_run ⟨2, 0⟩ threeReports (slowViewing ++ [.deliver]) rfl hmoves
  -- the numbers are worked out first, which keeps the runs small
  have hnext : ((ofConfig ⟨2, 0⟩).run threeReports).1.hub.bus.nextId = 1 := rfl
  have hkept : ((ofConfig ⟨2, 0⟩).run threeReports).1.hub.cached.length = 2 := rfl
  have hqueue : HubConfig.queue ⟨2, 0⟩ = 2 := rfl
  simp only [hnext, hkept, hqueue] at hroom
  obtain ⟨-, hresult, queue, hviewer, -, -, -, hlag, -⟩ := hroom
  refine ⟨rfl, hmoves, hresult, queue, hviewer, hlag.mpr ⟨slowViewing, [], rfl, ?_⟩⟩
  exact ⟨⟨_, rfl⟩, List.mem_iff_getElem?.mpr ⟨5, rfl⟩, by decide⟩

end Relay

end ReportRelay
