/-
# How a stream ends

Two things end the stream of a viewer.  A queue that has overflowed gives nothing out from then
on.  A queue that the hub does not hold any more gives out what waits in it, and ends.  In
both cases no move of anybody else changes what the viewer will still receive.

With the invariant of a relay this shows that a stream has no silent gap
(`received_of_run`).
-/
import ReportRelay.Proofs.Relay.Stream

namespace ReportRelay

/-- Tells whether a move is that a viewer receives. -/
def RelayMove.isReceive (id : SubscriptionId) : RelayMove → Bool
  | receive other => other == id
  | _ => false

/-- Tells whether a move is that a viewer gives up its queue. -/
def RelayMove.isDropReceiver (id : SubscriptionId) : RelayMove → Bool
  | dropReceiver other => other == id
  | _ => false

namespace Relay

/-! ## What a move does to a queue -/

/-- What a move of a relay may do to the queue of a viewer, with what the viewer receives. -/
inductive QueueStep (relay : Relay) (id : SubscriptionId) (queue : Queue Message) :
    RelayMove → Queue Message → List (Received Message) → Prop
  /-- The viewer receives. -/
  | receive : QueueStep relay id queue (.receive id) queue.receive.1 [queue.receive.2]
  /-- The viewer gives up the queue. -/
  | dropReceiver : QueueStep relay id queue (.dropReceiver id) queue.dropReceiver []
  /-- A message is delivered to the queue, and the hub may give it up afterwards. -/
  | deliver (message : Message) (held : Bool)
      (hcall : relay.hub.calling? = some (id, message)) :
      QueueStep relay id queue .deliver
        (if held then (queue.deliver message).1 else (queue.deliver message).1.dropSink) []
  /-- Nothing is delivered and received; the hub may give up the queue. -/
  | stay {move : RelayMove} (held : Bool) (hreceive : move.isReceive id = false)
      (hdrop : move.isDropReceiver id = false) :
      QueueStep relay id queue move (if held then queue else queue.dropSink) []

variable {config : HubConfig} {relay : Relay} {events : List RelayEvent} {id : SubscriptionId}
  {queue : Queue Message}

/-- A queue that nobody touches stays as it is. -/
theorem QueueStep.same {move : RelayMove} (hreceive : move.isReceive id = false)
    (hdrop : move.isDropReceiver id = false) : QueueStep relay id queue move queue [] :=
  .stay true hreceive hdrop

/-- After a move of the hub the queue is there, given up or not. -/
theorem exists_queue?_afterHub (hqueue : relay.queue? id = some queue)
    (moved : Hub × List HubEvent) {move : RelayMove} (hreceive : move.isReceive id = false)
    (hdrop : move.isDropReceiver id = false) :
    ∃ after, (relay.afterHub moved).1.queue? id = some after ∧
      QueueStep relay id queue move after (received id (relay.afterHub moved).2) := by
  refine ⟨if holds moved.1 id then queue else queue.dropSink, ?_, ?_⟩
  · rw [queue?_afterHub, hqueue, Option.map_some]
  · rw [afterHub, received_map_hub]
    exact .stay (holds moved.1 id) hreceive hdrop

/-- The queue of a viewer stays in the relay, and a move changes it as `QueueStep` says. -/
theorem exists_queue?_step (hqueue : relay.queue? id = some queue) (move : RelayMove) :
    ∃ after, (relay.step move).1.queue? id = some after ∧
      QueueStep relay id queue move after (received id (relay.step move).2) := by
  cases move with
  | hub move =>
      cases move with
      | finish outcome =>
          rw [step, finish]
          split
          · exact ⟨queue, hqueue, .same rfl rfl⟩
          · exact exists_queue?_afterHub hqueue _ rfl rfl
      | ingest report => exact exists_queue?_afterHub hqueue _ rfl rfl
      | attach => exact exists_queue?_afterHub hqueue _ rfl rfl
      | detach other => exact exists_queue?_afterHub hqueue _ rfl rfl
      | release other => exact exists_queue?_afterHub hqueue _ rfl rfl
      | discard other => exact exists_queue?_afterHub hqueue _ rfl rfl
  | attachViewer capacity =>
      rw [step, attachViewer]
      split
      · exact ⟨queue, hqueue, .same rfl rfl⟩
      · refine ⟨if holds (relay.hub.step .attach).1 id then queue else queue.dropSink, ?_, ?_⟩
        · rw [queue?_afterHub, queue?_append, hqueue, Option.some_or, Option.map_some]
        · rw [afterHub, received_map_hub]
          exact .stay _ rfl rfl
  | deliver =>
      rw [step]
      cases hdelivering : relay.delivering? with
      | none =>
          rw [deliver, hdelivering]
          exact ⟨queue, hqueue, .same rfl rfl⟩
      | some delivery =>
          obtain ⟨other, message, target⟩ := delivery
          obtain ⟨hcall, htarget⟩ := delivering?_eq_some.mp hdelivering
          rw [deliver_eq hdelivering, queue?_afterHub, queue?_updateQueue]
          -- the queue of the viewer that is called takes the message, and no other queue changes
          by_cases hid : id = other
          · subst hid
            rw [hqueue, Option.some.injEq] at htarget
            subst htarget
            rw [if_pos rfl, hqueue]
            refine ⟨_, rfl, ?_⟩
            rw [afterHub, received_map_hub]
            exact .deliver message _ hcall
          · rw [if_neg hid, hqueue]
            refine ⟨_, rfl, ?_⟩
            rw [afterHub, received_map_hub]
            exact .stay _ rfl rfl
  | receive other =>
      rw [step]
      cases hother : relay.queue? other with
      | none =>
          rw [receive, hother]
          -- a viewer that is not there is another one
          refine ⟨queue, hqueue, .same ?_ rfl⟩
          rw [RelayMove.isReceive, beq_eq_false_iff_ne]
          rintro rfl
          rw [hother] at hqueue
          cases hqueue
      | some target =>
          rw [receive_eq hother, queue?_updateQueue, received_singleton]
          by_cases hid : id = other
          · subst hid
            rw [hqueue, Option.some.injEq] at hother
            subst hother
            rw [if_pos rfl, if_pos rfl, hqueue]
            exact ⟨_, rfl, .receive⟩
          · rw [if_neg hid, if_neg (Ne.symm hid)]
            refine ⟨queue, hqueue, .same ?_ rfl⟩
            rw [RelayMove.isReceive, beq_eq_false_iff_ne]
            exact Ne.symm hid
  | dropReceiver other =>
      simp only [step, queue?_updateQueue, received_nil]
      by_cases hid : id = other
      · subst hid
        rw [if_pos rfl, hqueue]
        exact ⟨_, rfl, .dropReceiver⟩
      · rw [if_neg hid]
        refine ⟨queue, hqueue, .same rfl ?_⟩
        rw [RelayMove.isDropReceiver, beq_eq_false_iff_ne]
        exact Ne.symm hid

/-! ## After an overflow -/

/-- A queue that has overflowed stays so, and gives nothing out. -/
theorem QueueStep.lagged {move : RelayMove} {after : Queue Message}
    {what : List (Received Message)} (h : QueueStep relay id queue move after what)
    (hlag : queue.lagged = true) :
    after.lagged = true ∧ what = if move.isReceive id then [.ended] else [] := by
  cases h with
  | receive =>
      rw [Queue.receive_of_lagged hlag]
      exact ⟨hlag, by simp [RelayMove.isReceive]⟩
  | dropReceiver => exact ⟨hlag, rfl⟩
  | deliver message held hcall =>
      rw [Queue.deliver_of_lagged hlag]
      refine ⟨?_, rfl⟩
      cases held <;> exact hlag
  | stay held hreceive hdrop =>
      rw [hreceive]
      refine ⟨?_, rfl⟩
      cases held <;> exact hlag

/-- **A viewer whose queue has overflowed receives the end from then on**, whatever moves
follow. -/
theorem received_of_lagged (hqueue : relay.queue? id = some queue) (hlag : queue.lagged = true)
    (moves : List RelayMove) :
    received id (relay.run moves).2
      = List.replicate (moves.countP (RelayMove.isReceive id)) .ended := by
  -- the flag is carried through the run; what else happens to the queue does not matter
  induction moves generalizing relay queue with
  | nil => rfl
  | cons move moves ih =>
      obtain ⟨after, hafter, hstep⟩ := exists_queue?_step hqueue move
      obtain ⟨hlag', hwhat⟩ := hstep.lagged hlag
      rw [run, received_append, hwhat, ih hafter hlag', List.countP_cons]
      cases move.isReceive id with
      | true => rfl
      | false => rfl

/-! ## After the hub has given up a queue -/

/-- A queue that the hub has given up changes only when its viewer receives. -/
theorem QueueStep.givenUp {move : RelayMove} {after : Queue Message}
    {what : List (Received Message)} (h : QueueStep relay id queue move after what)
    (hlag : queue.lagged = false) (hsink : queue.sinkOpen = false)
    (hheld : ¬relay.hub.IsHeld id) (hdrop : move.isDropReceiver id = false) :
    after = (if move.isReceive id then { queue with waiting := queue.waiting.tail } else queue) ∧
      what = if move.isReceive id then [(queue.waiting.map Received.item).headD .ended]
        else [] := by
  cases h with
  | receive =>
      rw [Queue.receive_of_not_sinkOpen hlag hsink]
      simp [RelayMove.isReceive]
  | dropReceiver => simp [RelayMove.isDropReceiver] at hdrop
  | deliver message held hcall =>
      -- the hub calls only those whom it holds
      exact absurd (Hub.isHeld_of_calling hcall) hheld
  | stay held hreceive _ =>
      rw [hreceive]
      refine ⟨?_, rfl⟩
      cases held with
      | true => rfl
      | false =>
          obtain ⟨capacity, waiting, lagged, sinkOpen, receiverOpen⟩ := queue
          cases hsink
          rfl

/-- A move of a relay brings nobody back whom the hub does not hold any more. -/
theorem Serves.not_isHeld_step (h : relay.Serves events) (hqueue : relay.queue? id = some queue)
    (hheld : ¬relay.hub.IsHeld id) (move : RelayMove) : ¬(relay.step move).1.hub.IsHeld id := by
  have hstep : (relay.step move).1.hub = (relay.hub.run (relay.hubMove? move).toList).1 :=
    congrArg Prod.fst (step_hub relay move)
  rw [hstep]
  cases relay.hubMove? move with
  | none => exact hheld
  | some moved =>
      intro hafter
      exact hheld (h.sound.isHeld_of_step moved (h.known id queue hqueue) hafter)

/-- **A viewer whose queue the hub has given up drains it and then receives the end**, whatever
moves of others come between. -/
theorem Serves.received_of_givenUp (h : relay.Serves events)
    (hqueue : relay.queue? id = some queue) (hlag : queue.lagged = false)
    (hsink : queue.sinkOpen = false) (hheld : ¬relay.hub.IsHeld id) {moves : List RelayMove}
    (hmoves : ∀ move ∈ moves, move.isDropReceiver id = false) :
    received id (relay.run moves).2
      = (queue.waiting.map .item).take (moves.countP (RelayMove.isReceive id))
        ++ List.replicate (moves.countP (RelayMove.isReceive id) - queue.waiting.length)
            .ended := by
  -- the queue changes only by what its viewer takes from it, one item for each receipt
  induction moves generalizing relay events queue with
  | nil => simp [Relay.run]
  | cons move moves ih =>
      obtain ⟨after, hafter, hstep⟩ := exists_queue?_step hqueue move
      have hdrop := hmoves move List.mem_cons_self
      obtain ⟨rfl, hwhat⟩ := hstep.givenUp hlag hsink hheld hdrop
      have hheld' := h.not_isHeld_step hqueue hheld move
      have hlater : ∀ later ∈ moves, later.isDropReceiver id = false :=
        fun later hmem => hmoves later (List.mem_cons_of_mem _ hmem)
      rw [Relay.run, received_append, hwhat, List.countP_cons]
      cases hreceive : move.isReceive id with
      | false =>
          rw [hreceive] at hafter
          simpa using ih (h.step move) hafter hlag hsink hheld' hlater
      | true =>
          rw [hreceive] at hafter
          have hrest := ih (h.step move) hafter hlag hsink hheld' hlater
          simp only [if_true] at hrest ⊢
          rw [hrest]
          cases queue.waiting with
          | nil => simp [List.replicate_succ]
          | cons item rest => simp

/-! ## The contract -/

/-- **A stream has no silent gap.**  At every point of a run of a relay, the messages that a
viewer has received are a prefix of those that it is due.  If a delivery to it has overflowed,
it receives the end from then on.  If none has, and the hub does not hold its queue any more,
it receives the rest of what it is due, and then the end.  An idle hub holds the queues of the
registered viewers only. -/
theorem received_of_run (config : HubConfig) (moves : List RelayMove) (id : SubscriptionId) :
    let relay := ((ofConfig config).run moves).1
    let events := ((ofConfig config).run moves).2
    let due := ((Ledger.ofMoves config ((ofConfig config).hubMoves moves)).due id).map
      Message.newReport
    got id events <+: due ∧
      (relay.hub.isBusy = false →
        holds relay.hub id = relay.hub.bus.registered.contains id) ∧
      ∀ queue, relay.queue? id = some queue →
        (Overflowed id events → ∀ later,
          received id (relay.run later).2
            = List.replicate (later.countP (RelayMove.isReceive id)) .ended) ∧
        (¬Overflowed id events → queue.receiverOpen = true → holds relay.hub id = false →
          ∃ rest, got id events ++ rest = due ∧
            ∀ later : List RelayMove, (∀ move ∈ later, move.isDropReceiver id = false) →
              received id (relay.run later).2
                = (rest.map .item).take (later.countP (RelayMove.isReceive id))
                  ++ List.replicate (later.countP (RelayMove.isReceive id) - rest.length)
                      .ended) := by
  intro relay events due
  have hserves : relay.Serves events := (serves_ofConfig config).run moves
  have hrun := run_hub (ofConfig config) moves
  have hkeeps := Ledger.keeps_ofMoves config ((ofConfig config).hubMoves moves)
  have hbalance : handed id (hubEvents events) ++ relay.hub.outstanding id = due := by
    have hbalance := hkeeps.balance id
    rw [show Hub.ofConfig config = (ofConfig config).hub from rfl, ← hrun] at hbalance
    exact hbalance
  have hdue : handed id (hubEvents events) <+: due := by
    rw [← hbalance]
    exact List.prefix_append _ _
  refine ⟨?_, fun hidle => holds_idle hidle id, fun queue hqueue =>
    ⟨fun hover later => ?_, fun hover hopen hheld => ?_⟩⟩
  · cases hqueue : relay.queue? id with
    | none =>
        rw [got, hserves.others id hqueue]
        exact List.nil_prefix
    | some queue => exact (hserves.queue id queue hqueue).got_handed.trans hdue
  · exact received_of_lagged hqueue ((hserves.queue id queue hqueue).lag.mpr hover) later
  · have hends := hserves.queue id queue hqueue
    have hlag : queue.lagged = false := by
      rw [← Bool.not_eq_true]
      exact fun hlag => hover (hends.lag.mp hlag)
    have hnot : ¬relay.hub.IsHeld id := by
      rw [← holds_iff, hheld]
      exact Bool.false_ne_true
    refine ⟨queue.waiting, ?_, fun later hlater => ?_⟩
    · -- nothing is in hand or outstanding for a viewer that is not held, so all else waits
      have hcomplete := hends.complete hlag hopen
      rw [Hub.inHand_of_not_isHeld hnot, List.append_nil] at hcomplete
      rw [← hcomplete, ← hbalance, Hub.outstanding_of_not_isHeld hnot, List.append_nil]
    · exact hserves.received_of_givenUp hqueue hlag (hends.sink.trans hheld) hnot hlater

/-- A viewer with room for one message misses the second one and receives only the end; one
with more room is detached after the first one, and receives it before the end. -/
theorem received_after_overflow_and_detach :
    let one : RelayMove := .hub (.ingest (.string "one"))
    let two : RelayMove := .hub (.ingest (.string "two"))
    let missed := (ofConfig {}).run [.attachViewer 1, one, .deliver, two, .deliver]
    let left := (ofConfig {}).run [.attachViewer 2, one, .deliver, .hub (.detach 1)]
    Overflowed 1 missed.2 ∧
      received 1 (missed.1.run [.receive 1, .receive 1]).2 = [.ended, .ended] ∧
      ¬Overflowed 1 left.2 ∧
      received 1 (left.1.run [.receive 1, .receive 1]).2
        = [.item (.newReport (.string "one")), .ended] := by
  intro one two missed left
  have hmissed := received_of_run {} [.attachViewer 1, one, .deliver, two, .deliver] 1
  have hleft := received_of_run {} [.attachViewer 2, one, .deliver, .hub (.detach 1)] 1
  have hover : Overflowed 1 missed.2 := List.mem_iff_getElem?.mpr ⟨5, rfl⟩
  have hevents : left.2 = [.hub (.attached 1 0), .hub (.called 1 (.newReport (.string "one"))),
      .hub (.finished 1 .accepted), .hub (.ingested (.newReport (.string "one")) 1),
      .hub (.detached 1 true)] := rfl
  have hnot : ¬Overflowed 1 left.2 := by
    rw [Overflowed, hevents]
    simp
  refine ⟨hover, ?_, hnot, ?_⟩
  · exact (hmissed.2.2 _ rfl).1 hover [.receive 1, .receive 1]
  · obtain ⟨rest, hrest, hlater⟩ := (hleft.2.2 _ rfl).2 hnot rfl rfl
    have hone : rest = [.newReport (.string "one")] := hrest
    rw [hlater [.receive 1, .receive 1] (by simp [RelayMove.isDropReceiver]), hone]
    rfl

end Relay

end ReportRelay
