/-
# A queue and its two ends

`Queue.Serves` ties a queue to what has happened at its ends: the items that were handed to
it, the one that is being handed to it, and the items that were received.  Its field `complete`
is the point of it: as long as nothing was lost, the items handed over are those received,
those that wait, and the one in hand.  Every act on a queue keeps it.
-/
import ReportRelay.Queue

namespace ReportRelay

/-- The item that was received, if there was one. -/
def Received.item? {α : Type} : Received α → Option α
  | item a => some a
  | pending => none
  | ended => none

namespace Queue

variable {α : Type}

/-- The queue has served its ends: `held` tells whether more may be handed to it, `handed` are
the items whose delivery has started, `inHand` those of them whose delivery goes on, `got` the
items received, and `overflowed` tells whether a delivery has been refused for want of room. -/
structure Serves (held : Bool) (handed inHand got : List α) (overflowed : Prop)
    (queue : Queue α) : Prop where
  sink : queue.sinkOpen = held
  lag : queue.lagged = true ↔ overflowed
  got_handed : got <+: handed
  complete : queue.lagged = false → queue.receiverOpen = true →
    handed = got ++ queue.waiting ++ inHand
  closed : queue.receiverOpen = false → queue.waiting = []

variable {held : Bool} {handed inHand got : List α} {overflowed : Prop} {queue : Queue α}

/-- A new queue has served nobody. -/
theorem serves_ofCapacity (capacity : Nat) (hoverflowed : ¬overflowed) :
    (ofCapacity capacity : Queue α).Serves true [] [] [] overflowed where
  sink := rfl
  lag := by simpa [ofCapacity] using hoverflowed
  got_handed := List.nil_prefix
  complete := fun _ _ => rfl
  closed := fun h => by cases h

/-! ## The delivering end -/

/-- A queue goes on serving while an item comes into hand. -/
theorem Serves.offer (h : queue.Serves held handed inHand got overflowed) {new inHand' : List α}
    (hinHand : inHand ++ new = inHand') :
    queue.Serves held (handed ++ new) inHand' got overflowed where
  sink := h.sink
  lag := h.lag
  got_handed := h.got_handed.trans (List.prefix_append _ _)
  complete := by
    intro hlag hopen
    rw [h.complete hlag hopen, ← hinHand, List.append_assoc _ inHand]
  closed := h.closed

/-- The delivering end may be given up when nothing more is handed over. -/
theorem Serves.sweep (h : queue.Serves held handed inHand got overflowed) {held' : Bool}
    (hle : held' = true → held = true) :
    (if held' then queue else queue.dropSink).Serves held' handed inHand got overflowed := by
  cases held' with
  | true =>
      rw [if_pos rfl]
      exact { h with sink := h.sink.trans (hle rfl) }
  | false =>
      rw [if_neg Bool.false_ne_true]
      exact { h with sink := rfl }

/-- The delivery of the item in hand leaves nothing in hand; it overflows exactly if it finds
the queue full, or finds that it has overflowed before. -/
theorem Serves.deliver {item : α} (h : queue.Serves held handed [item] got overflowed) :
    (queue.deliver item).1.Serves held handed [] got
      (overflowed ∨ (queue.deliver item).2 = .refused .lagged) := by
  unfold Queue.deliver
  split
  -- refused once more: an item was missing before this one
  · next hlag =>
      exact
        { sink := h.sink
          lag := by simp [hlag]
          got_handed := h.got_handed
          complete := fun hnot => by rw [hlag] at hnot; cases hnot
          closed := h.closed }
  · next hlag =>
      have hnot : ¬overflowed := fun hover => hlag (h.lag.mpr hover)
      rw [Bool.not_eq_true] at hlag
      split
      -- refused because nobody receives any more, which is no overflow
      · next hclosed =>
          rw [Bool.not_eq_true'] at hclosed
          exact
            { sink := h.sink
              lag := by simp [hlag, hnot]
              got_handed := h.got_handed
              complete := fun _ hopen => by rw [hclosed] at hopen; cases hopen
              closed := h.closed }
      · next hopen =>
          rw [Bool.not_eq_true', Bool.not_eq_false] at hopen
          split
          -- no room: from here on the balance of the items is given up
          · exact
              { sink := h.sink
                lag := by simp
                got_handed := h.got_handed
                complete := fun hnotLagged => by cases hnotLagged
                closed := h.closed }
          · exact
              { sink := h.sink
                lag := by simp [hlag, hnot]
                got_handed := h.got_handed
                complete := fun _ _ => by
                  simp only [List.append_nil, ← List.append_assoc]
                  exact h.complete hlag hopen
                closed := fun hclosed => by rw [hopen] at hclosed; cases hclosed }

/-! ## The receiving end -/

/-- A queue goes on serving while items are received. -/
theorem Serves.receive (h : queue.Serves held handed inHand got overflowed) :
    queue.receive.1.Serves held handed inHand (got ++ queue.receive.2.item?.toList)
      overflowed := by
  unfold Queue.receive
  split
  · simpa [Received.item?] using h
  · next hlag =>
      rw [Bool.not_eq_true] at hlag
      split
      · next item rest hwaiting =>
          -- nothing waits in a queue whose receiving end was given up
          have hopen : queue.receiverOpen = true := by
            rw [← Bool.not_eq_false]
            intro hclosed
            rw [h.closed hclosed] at hwaiting
            cases hwaiting
          have hcomplete := h.complete hlag hopen
          rw [hwaiting] at hcomplete
          have hsplit : handed = got ++ [item] ++ rest ++ inHand := by simpa using hcomplete
          exact
            { sink := h.sink
              lag := h.lag
              got_handed := by
                show got ++ [item] <+: handed
                rw [hsplit, List.append_assoc]
                exact List.prefix_append _ _
              complete := fun _ _ => hsplit
              closed := fun hclosed => by rw [hopen] at hclosed; cases hclosed }
      · split <;> simpa [Received.item?] using h

/-- A queue whose receiving end has been given up serves nobody any more. -/
theorem Serves.dropReceiver (h : queue.Serves held handed inHand got overflowed) :
    queue.dropReceiver.Serves held handed inHand got overflowed where
  sink := h.sink
  lag := h.lag
  got_handed := h.got_handed
  complete := fun _ hopen => by cases hopen
  closed := fun _ => rfl

/-! ## The end of a stream -/

/-- A queue that has overflowed gives nothing out any more. -/
theorem receive_of_lagged (h : queue.lagged = true) : queue.receive = (queue, .ended) := by
  rw [receive, if_pos h]

/-- A queue that has overflowed stays so when something is delivered. -/
theorem deliver_of_lagged (h : queue.lagged = true) (item : α) :
    queue.deliver item = (queue, .refused .lagged) := by
  rw [deliver, if_pos h]

/-- A queue to which nothing more can be delivered gives out what waits, and then ends. -/
theorem receive_of_not_sinkOpen (hlag : queue.lagged = false) (hsink : queue.sinkOpen = false) :
    queue.receive = ({ queue with waiting := queue.waiting.tail },
      (queue.waiting.map Received.item).headD .ended) := by
  rw [receive, if_neg (by rw [hlag]; exact Bool.false_ne_true)]
  cases hwaiting : queue.waiting with
  | nil =>
      obtain ⟨capacity, waiting, lagged, sinkOpen, receiverOpen⟩ := queue
      cases hsink
      cases hwaiting
      rfl
  | cons item rest => rfl

end Queue

end ReportRelay
