/-
# The account of a queue

A queue is used at its two ends, in any order: items are delivered at the one and asked for at the
other, until the end is given up.  What has been seen of this use tells what the queue does next
(`account_of_run`): the items that were accepted are those received and those that wait, and
whether an overflow has been seen, or the loss of an end, decides on every answer from then on.

`Queue.Account` is what every move keeps.  Three things may happen to a queue for good: it
overflows, or one of its ends is given up.  Each has a statement of its own about whatever comes
later (`Account.overran`, `Account.receiverDropped`, `run_receive_of_not_sinkOpen`).
-/
import ReportRelay.Proofs.Queue

namespace ReportRelay

/-! ## Moves -/

/-- A use of one of the ends of a queue. -/
inductive QueueMove (α : Type) where
  /-- An item is delivered. -/
  | deliver (item : α)
  /-- The receiver asks for an item. -/
  | receive
  /-- The delivering end is given up. -/
  | dropSink
  /-- The receiving end is given up. -/
  | dropReceiver
  deriving DecidableEq, Repr

/-- What can be seen of a queue. -/
inductive QueueEvent (α : Type) where
  /-- An item was delivered, with this outcome. -/
  | delivered (item : α) (outcome : Outcome)
  /-- The receiver asked for an item, and got this. -/
  | received (what : Received α)
  /-- The delivering end was given up. -/
  | sinkDropped
  /-- The receiving end was given up. -/
  | receiverDropped
  deriving DecidableEq, Repr

/-- The item that was accepted, if the event is that. -/
def QueueEvent.accepted? {α : Type} : QueueEvent α → Option α
  | delivered item .accepted => some item
  | _ => none

/-- The item that was received, if the event is that. -/
def QueueEvent.received? {α : Type} : QueueEvent α → Option α
  | received what => what.item?
  | _ => none

namespace Queue

variable {α : Type}

/-- The queue after a move, and what is seen of it: nothing, at an end that has been given up. -/
def step (queue : Queue α) : QueueMove α → Queue α × List (QueueEvent α)
  | .deliver item =>
    if queue.sinkOpen then ((queue.deliver item).1, [.delivered item (queue.deliver item).2])
    else (queue, [])
  | .receive =>
    if queue.receiverOpen then (queue.receive.1, [.received queue.receive.2]) else (queue, [])
  | .dropSink => if queue.sinkOpen then (queue.dropSink, [.sinkDropped]) else (queue, [])
  | .dropReceiver =>
    if queue.receiverOpen then (queue.dropReceiver, [.receiverDropped]) else (queue, [])

/-- The queue after moves, and what is seen of them. -/
def run (queue : Queue α) : List (QueueMove α) → Queue α × List (QueueEvent α)
  | [] => (queue, [])
  | move :: moves =>
    (((queue.step move).1.run moves).1, (queue.step move).2 ++ ((queue.step move).1.run moves).2)

/-- The items that were accepted. -/
def accepted (events : List (QueueEvent α)) : List α := events.filterMap QueueEvent.accepted?

/-- The items that were received. -/
def received (events : List (QueueEvent α)) : List α := events.filterMap QueueEvent.received?

/-- A delivery was refused because the queue had overflowed. -/
def Overran (events : List (QueueEvent α)) : Prop :=
  ∃ item, .delivered item (.refused .lagged) ∈ events

variable {capacity : Nat} {events : List (QueueEvent α)} {queue : Queue α}

/-! ## What a delivery does -/

/-- A delivery is refused after an overflow, refused if nobody can receive, makes a full queue
overflow, or takes one place. -/
theorem deliver_cases (queue : Queue α) (item : α) :
    (queue.lagged = true ∧ queue.deliver item = (queue, .refused .lagged)) ∨
    (queue.lagged = false ∧ queue.receiverOpen = false ∧
      queue.deliver item = (queue, .refused .closed)) ∨
    (queue.lagged = false ∧ queue.receiverOpen = true ∧ queue.capacity ≤ queue.waiting.length ∧
      queue.deliver item = ({ queue with lagged := true }, .refused .lagged)) ∨
    (queue.lagged = false ∧ queue.receiverOpen = true ∧ queue.waiting.length < queue.capacity ∧
      queue.deliver item = ({ queue with waiting := queue.waiting ++ [item] }, .accepted)) := by
  unfold Queue.deliver
  cases hlag : queue.lagged with
  | true => exact Or.inl ⟨rfl, rfl⟩
  | false =>
      right
      cases hopen : queue.receiverOpen with
      | false => exact Or.inl ⟨rfl, rfl, rfl⟩
      | true =>
          right
          by_cases hfull : queue.capacity ≤ queue.waiting.length
          · exact Or.inl ⟨rfl, rfl, hfull, by simp [hfull]⟩
          · exact Or.inr ⟨rfl, rfl, by omega, by simp [hfull]⟩

/-- Receiving leaves all of a queue but what waits, of which there is not more afterwards. -/
theorem receive_frame (queue : Queue α) :
    queue.receive.1 = { queue with waiting := queue.receive.1.waiting } ∧
      queue.receive.1.waiting.length ≤ queue.waiting.length := by
  unfold Queue.receive
  split
  · exact ⟨rfl, Nat.le_refl _⟩
  · split
    · next hwaiting =>
        rw [hwaiting]
        exact ⟨rfl, Nat.le_succ _⟩
    · exact ⟨rfl, Nat.le_refl _⟩

/-! ## The account -/

/-- A queue that was made with a capacity stands as what has been seen of it tells. -/
structure Account (capacity : Nat) (events : List (QueueEvent α)) (queue : Queue α) : Prop where
  /-- What was accepted is what was received and what waits, as long as nothing was lost. -/
  serves : queue.Serves queue.sinkOpen (accepted events) [] (received events) (Overran events)
  /-- There is room for at least one item. -/
  capacity_eq : queue.capacity = max capacity 1
  /-- No more waits than there is room for. -/
  waiting_le : queue.waiting.length ≤ max capacity 1
  /-- The delivering end is held until it is seen to be given up. -/
  sink : queue.sinkOpen = true ↔ .sinkDropped ∉ events
  /-- The receiving end is held until it is seen to be given up. -/
  receiver : queue.receiverOpen = true ↔ .receiverDropped ∉ events

/-- What one more event shows to be accepted comes last. -/
theorem accepted_concat (events : List (QueueEvent α)) (event : QueueEvent α) :
    accepted (events ++ [event]) = accepted events ++ event.accepted?.toList := by
  rw [accepted, accepted, List.filterMap_append, List.filterMap_cons]
  cases event.accepted? <;> rfl

/-- What one more event shows to be received comes last. -/
theorem received_concat (events : List (QueueEvent α)) (event : QueueEvent α) :
    received (events ++ [event]) = received events ++ event.received?.toList := by
  rw [received, received, List.filterMap_append, List.filterMap_cons]
  cases event.received? <;> rfl

/-- An overflow was seen before one more event, or the event shows it. -/
theorem overran_concat (events : List (QueueEvent α)) (event : QueueEvent α) :
    Overran (events ++ [event])
      ↔ Overran events ∨ ∃ item, event = .delivered item (.refused .lagged) := by
  simp only [Overran, List.mem_append, List.mem_singleton, exists_or, eq_comm]

/-- One more event that shows no overflow leaves it at those seen before. -/
theorem Serves.concat {held : Bool} {event : QueueEvent α}
    (h : queue.Serves held (accepted events ++ event.accepted?.toList) []
      (received events ++ event.received?.toList) (Overran events))
    (hevent : ∀ item, event ≠ .delivered item (.refused .lagged)) :
    queue.Serves held (accepted (events ++ [event])) [] (received (events ++ [event]))
      (Overran (events ++ [event])) := by
  have hoverran : Overran (events ++ [event]) ↔ Overran events := by
    rw [overran_concat]
    exact or_iff_left fun ⟨item, heq⟩ => hevent item heq
  rwa [accepted_concat, received_concat, hoverran]

/-- Nothing has been seen of a new queue. -/
theorem account_ofCapacity (capacity : Nat) :
    (ofCapacity capacity : Queue α).Account capacity [] where
  serves := serves_ofCapacity capacity (by simp [Overran])
  capacity_eq := rfl
  waiting_le := Nat.zero_le _
  sink := by simp [ofCapacity]
  receiver := by simp [ofCapacity]

/-- A delivery that was refused for an overflow is accounted for. -/
theorem Account.overflow (h : queue.Account capacity events) (item : α) :
    Account capacity (events ++ [.delivered item (.refused .lagged)])
      { queue with lagged := true } where
  serves :=
    { sink := rfl
      lag := by simp [overran_concat]
      got_handed := by
        rw [accepted_concat, received_concat]
        simpa [QueueEvent.accepted?, QueueEvent.received?] using h.serves.got_handed
      complete := fun hnot => by cases hnot
      closed := h.serves.closed }
  capacity_eq := h.capacity_eq
  waiting_le := h.waiting_le
  sink := by simpa using h.sink
  receiver := by simpa using h.receiver

/-- A delivery is accounted for. -/
theorem Account.deliver (h : queue.Account capacity events) (item : α) :
    (queue.deliver item).1.Account capacity
      (events ++ [.delivered item (queue.deliver item).2]) := by
  rcases deliver_cases queue item with ⟨hlag, heq⟩ | ⟨hlag, hclosed, heq⟩ |
    ⟨hlag, hopen, hfull, heq⟩ | ⟨hlag, hopen, hroom, heq⟩
  · have hover := h.overflow item
    rw [heq]
    rwa [← hlag] at hover
  · rw [heq]
    refine ⟨Serves.concat ?_ (by simp), h.capacity_eq, h.waiting_le, ?_, ?_⟩
    · simpa [QueueEvent.accepted?, QueueEvent.received?] using h.serves
    · simpa using h.sink
    · simpa using h.receiver
  · rw [heq]
    exact h.overflow item
  -- the item comes into hand, and is put behind those that wait
  · have hserves := (h.serves.offer (List.nil_append [item])).deliver
    rw [heq] at hserves ⊢
    refine ⟨Serves.concat ?_ (by simp), h.capacity_eq, ?_, ?_, ?_⟩
    · simpa [QueueEvent.accepted?, QueueEvent.received?] using hserves
    · show (queue.waiting ++ [item]).length ≤ max capacity 1
      rw [List.length_append, List.length_singleton, ← h.capacity_eq]
      omega
    · simpa using h.sink
    · simpa using h.receiver

/-- An answer to the receiver is accounted for. -/
theorem Account.receive (h : queue.Account capacity events) :
    queue.receive.1.Account capacity (events ++ [.received queue.receive.2]) := by
  have hserves := h.serves.receive
  obtain ⟨hframe, hle⟩ := receive_frame queue
  have hsink : queue.receive.1.sinkOpen = queue.sinkOpen := by rw [hframe]
  have hreceiver : queue.receive.1.receiverOpen = queue.receiverOpen := by rw [hframe]
  have hcapacity : queue.receive.1.capacity = queue.capacity := by rw [hframe]
  refine ⟨Serves.concat ?_ (by simp), hcapacity.trans h.capacity_eq,
    Nat.le_trans hle h.waiting_le, ?_, ?_⟩
  · rw [hsink]
    simpa [QueueEvent.accepted?, QueueEvent.received?] using hserves
  · rw [hsink]
    simpa using h.sink
  · rw [hreceiver]
    simpa using h.receiver

/-- The loss of the delivering end is accounted for. -/
theorem Account.dropSink (h : queue.Account capacity events) :
    queue.dropSink.Account capacity (events ++ [.sinkDropped]) := by
  have hserves : queue.dropSink.Serves false _ [] _ _ := h.serves.sweep fun hheld => by cases hheld
  refine ⟨Serves.concat ?_ (by simp), h.capacity_eq, h.waiting_le, ?_, ?_⟩
  · show Serves false _ [] _ _ queue.dropSink
    simpa [QueueEvent.accepted?, QueueEvent.received?] using hserves
  · simp [Queue.dropSink]
  · show queue.receiverOpen = true ↔ _
    simpa using h.receiver

/-- The loss of the receiving end is accounted for. -/
theorem Account.dropReceiver (h : queue.Account capacity events) :
    queue.dropReceiver.Account capacity (events ++ [.receiverDropped]) := by
  refine ⟨Serves.concat ?_ (by simp), h.capacity_eq, Nat.zero_le _, ?_, ?_⟩
  · show Serves queue.sinkOpen _ [] _ _ queue.dropReceiver
    simpa [QueueEvent.accepted?, QueueEvent.received?] using h.serves.dropReceiver
  · show queue.sinkOpen = true ↔ _
    simpa using h.sink
  · simp [Queue.dropReceiver]

/-- **Every move is accounted for.** -/
theorem Account.step (h : queue.Account capacity events) (move : QueueMove α) :
    (queue.step move).1.Account capacity (events ++ (queue.step move).2) := by
  have hstay : queue.Account capacity (events ++ []) := by rwa [List.append_nil]
  cases move with
  | deliver item =>
      rw [Queue.step]
      split
      · exact h.deliver item
      · exact hstay
  | receive =>
      rw [Queue.step]
      split
      · exact h.receive
      · exact hstay
  | dropSink =>
      rw [Queue.step]
      split
      · exact h.dropSink
      · exact hstay
  | dropReceiver =>
      rw [Queue.step]
      split
      · exact h.dropReceiver
      · exact hstay

/-- **Every run is accounted for.** -/
theorem Account.run (h : queue.Account capacity events) (moves : List (QueueMove α)) :
    (queue.run moves).1.Account capacity (events ++ (queue.run moves).2) := by
  induction moves generalizing queue events with
  | nil => rwa [Queue.run, List.append_nil]
  | cons move moves ih =>
      rw [Queue.run, ← List.append_assoc]
      exact ih (h.step move)

/-! ## Answers -/

/-- What a delivery comes to is told by the account. -/
theorem Account.outcome_iff (h : queue.Account capacity events) (item : α) :
    ((queue.deliver item).2 = .refused .lagged ↔
      Overran events ∨ .receiverDropped ∉ events ∧ queue.waiting.length = max capacity 1) ∧
    ((queue.deliver item).2 = .refused .closed ↔
      ¬Overran events ∧ .receiverDropped ∈ events) ∧
    ((queue.deliver item).2 = .accepted ↔
      ¬Overran events ∧ .receiverDropped ∉ events ∧ queue.waiting.length < max capacity 1) := by
  have hle := h.waiting_le
  have hcapacity := h.capacity_eq
  rw [← h.serves.lag, ← h.receiver]
  have hgone : .receiverDropped ∈ events ↔ queue.receiverOpen = false := by
    rw [← Bool.not_eq_true, h.receiver, Classical.not_not]
  rw [hgone]
  rcases deliver_cases queue item with ⟨hlag, heq⟩ | ⟨hlag, hclosed, heq⟩ |
    ⟨hlag, hopen, hfull, heq⟩ | ⟨hlag, hopen, hroom, heq⟩
  · simp [heq, hlag]
  · simp [heq, hlag, hclosed]
  · have hexact : queue.waiting.length = max capacity 1 := by omega
    simp [heq, hlag, hopen, hexact]
  · have hbelow : queue.waiting.length < max capacity 1 := by omega
    simp [heq, hlag, hopen, hbelow, Nat.ne_of_lt hbelow]

/-- What the receiver gets is told by the account. -/
theorem Account.received_eq (h : queue.Account capacity events) (hover : ¬Overran events) :
    (∀ item rest, queue.waiting = item :: rest → queue.receive.2 = .item item) ∧
    (queue.waiting = [] →
      (queue.receive.2 = .ended ↔ .sinkDropped ∈ events) ∧
      (queue.receive.2 = .pending ↔ .sinkDropped ∉ events)) := by
  have hgone : .sinkDropped ∈ events ↔ queue.sinkOpen = false := by
    rw [← Bool.not_eq_true, h.sink, Classical.not_not]
  rw [← h.sink, hgone]
  rw [← h.serves.lag] at hover
  constructor
  · intro item rest hwaiting
    simp [Queue.receive, hover, hwaiting]
  · intro hwaiting
    cases hsink : queue.sinkOpen <;> simp [Queue.receive, hover, hwaiting, hsink]

/-! ## What happens for good -/

/-- What every move keeps and every event of a move shows, a run keeps and shows. -/
theorem forall_mem_run (keeps : Queue α → Prop) (shows : QueueEvent α → Prop)
    (hstep : ∀ queue move, keeps queue →
      keeps (queue.step move).1 ∧ ∀ event ∈ (queue.step move).2, shows event)
    (h : keeps queue) (moves : List (QueueMove α)) :
    keeps (queue.run moves).1 ∧ ∀ event ∈ (queue.run moves).2, shows event := by
  induction moves generalizing queue with
  | nil => exact ⟨h, fun event hevent => by cases hevent⟩
  | cons move moves ih =>
      obtain ⟨hkeeps, hshows⟩ := hstep queue move h
      obtain ⟨hkeeps', hshows'⟩ := ih hkeeps
      refine ⟨hkeeps', fun event hevent => ?_⟩
      rcases List.mem_append.mp hevent with hevent | hevent
      · exact hshows event hevent
      · exact hshows' event hevent

/-- An event tells of an overflow, if it is an answer. -/
def TellsLagged (event : QueueEvent α) : Prop :=
  (∀ item outcome, event = .delivered item outcome → outcome = .refused .lagged) ∧
    ∀ what, event = .received what → what = .ended

/-- **An overflow is for good.**  No delivery comes to anything else afterwards, and nothing is
received, whatever room there is. -/
theorem run_of_lagged (h : queue.lagged = true) (moves : List (QueueMove α)) :
    (queue.run moves).1.lagged = true ∧ ∀ event ∈ (queue.run moves).2, TellsLagged event := by
  refine forall_mem_run (fun queue => queue.lagged = true) TellsLagged (fun queue move h => ?_) h
    moves
  cases move with
  | deliver item =>
      rw [step, deliver_of_lagged h]
      split <;> simp [h, TellsLagged]
  | receive =>
      rw [step, receive_of_lagged h]
      split <;> simp [h, TellsLagged]
  | dropSink =>
      rw [step]
      split <;> simp [h, TellsLagged, Queue.dropSink]
  | dropReceiver =>
      rw [step]
      split <;> simp [h, TellsLagged, Queue.dropReceiver]

/-- **The loss of the receiving end is for good.**  Every delivery is refused for it afterwards,
and none makes the queue overflow. -/
theorem run_of_not_receiverOpen (h : queue.lagged = false ∧ queue.receiverOpen = false)
    (moves : List (QueueMove α)) :
    ((queue.run moves).1.lagged = false ∧ (queue.run moves).1.receiverOpen = false) ∧
      ∀ event ∈ (queue.run moves).2,
        ∀ item outcome, event = .delivered item outcome → outcome = .refused .closed := by
  refine forall_mem_run (fun queue => queue.lagged = false ∧ queue.receiverOpen = false) _
    (fun queue move h => ?_) h moves
  obtain ⟨hlag, hclosed⟩ := h
  cases move with
  | deliver item =>
      have hdeliver : queue.deliver item = (queue, .refused .closed) := by
        simp [Queue.deliver, hlag, hclosed]
      rw [step, hdeliver]
      split <;> simp [hlag, hclosed]
  | receive => simp [step, hlag, hclosed]
  | dropSink =>
      rw [step]
      split <;> simp [hlag, hclosed, Queue.dropSink]
  | dropReceiver => simp [step, hlag, hclosed]

/-- **The loss of the delivering end is for good.**  What waits can still be received, and then the
stream ends however often the receiver asks. -/
theorem run_receive_of_not_sinkOpen (hlag : queue.lagged = false) (hsink : queue.sinkOpen = false)
    (hreceiver : queue.receiverOpen = true) (n : Nat) :
    (queue.run (List.replicate n .receive)).2
      = ((queue.waiting.map Received.item ++ List.replicate n Received.ended).take n).map
        .received := by
  induction n generalizing queue with
  | zero => rfl
  | succ n ih =>
      have hstep : queue.step .receive = ({ queue with waiting := queue.waiting.tail },
          [.received ((queue.waiting.map Received.item).headD .ended)]) := by
        rw [step, if_pos hreceiver, receive_of_not_sinkOpen hlag hsink]
      have hlater : (run { queue with waiting := queue.waiting.tail }
          (List.replicate n .receive)).2
            = ((queue.waiting.tail.map Received.item
              ++ List.replicate n Received.ended).take n).map .received :=
        ih hlag hsink hreceiver
      rw [List.replicate_succ, run, hstep]
      dsimp only
      rw [hlater]
      cases queue.waiting with
      | nil => simp [List.replicate_succ]
      | cons item rest => simp [List.replicate_succ', ← List.append_assoc, List.take_append]

/-! ## The whole account -/

/-- **What has been seen of a queue tells what it does next.**  No more waits than there is room
for.  Until an overflow is seen or the receiving end given up, the items accepted are those received
and those that wait, in this order; the queue is marked exactly when an overflow has been seen.

A delivery is refused as lagged if an overflow was seen before or somebody can receive and there is
no room, and as closed if nobody can receive and no overflow was seen; else it is accepted.  The
receiver gets the oldest item that waits, and nothing or the end if none does.  Each of the three
things that may happen for good rules all that is seen later. -/
theorem account_of_run (capacity : Nat) (moves : List (QueueMove α)) :
    let queue := ((ofCapacity capacity : Queue α).run moves).1
    let events := ((ofCapacity capacity : Queue α).run moves).2
    queue.waiting.length ≤ max capacity 1 ∧
    (¬Overran events → .receiverDropped ∉ events →
      accepted events = received events ++ queue.waiting) ∧
    (queue.lagged = true ↔ Overran events) ∧
    (∀ item, .sinkDropped ∉ events → ∃ outcome,
      (queue.step (.deliver item)).2 = [.delivered item outcome] ∧
      (outcome = .refused .lagged ↔
        Overran events ∨ .receiverDropped ∉ events ∧ queue.waiting.length = max capacity 1) ∧
      (outcome = .refused .closed ↔ ¬Overran events ∧ .receiverDropped ∈ events) ∧
      (outcome = .accepted ↔
        ¬Overran events ∧ .receiverDropped ∉ events ∧ queue.waiting.length < max capacity 1)) ∧
    (¬Overran events → .receiverDropped ∉ events → ∃ what,
      (queue.step .receive).2 = [.received what] ∧
      (∀ item rest, queue.waiting = item :: rest → what = .item item) ∧
      (queue.waiting = [] →
        (what = .ended ↔ .sinkDropped ∈ events) ∧ (what = .pending ↔ .sinkDropped ∉ events))) ∧
    (Overran events → ∀ later, (queue.run later).1.lagged = true ∧
      ∀ event ∈ (queue.run later).2, TellsLagged event) ∧
    (¬Overran events → .receiverDropped ∈ events → ∀ later,
      (queue.run later).1.lagged = false ∧
      ∀ item outcome, .delivered item outcome ∈ (queue.run later).2 → outcome = .refused .closed) ∧
    (¬Overran events → .sinkDropped ∈ events → .receiverDropped ∉ events → ∀ n,
      (queue.run (List.replicate n .receive)).2
        = ((queue.waiting.map Received.item ++ List.replicate n Received.ended).take n).map
          .received) := by
  intro queue events
  have h : queue.Account capacity events := by
    have hrun := (account_ofCapacity (α := α) capacity).run moves
    rwa [List.nil_append] at hrun
  have hlag : ¬Overran events → queue.lagged = false := fun hover => by
    rw [← Bool.not_eq_true, h.serves.lag]
    exact hover
  refine ⟨h.waiting_le, ?_, h.serves.lag, ?_, ?_, ?_, ?_, ?_⟩
  · intro hover hheld
    have hcomplete := h.serves.complete (hlag hover) (h.receiver.mpr hheld)
    rwa [List.append_nil] at hcomplete
  · intro item hheld
    exact ⟨_, by rw [step, if_pos (h.sink.mpr hheld)], h.outcome_iff item⟩
  · intro hover hheld
    exact ⟨_, by rw [step, if_pos (h.receiver.mpr hheld)], h.received_eq hover⟩
  · intro hover later
    exact run_of_lagged (h.serves.lag.mpr hover) later
  · intro hover hgone later
    have hclosed : queue.receiverOpen = false := by
      rw [← Bool.not_eq_true, h.receiver]
      exact fun hnot => hnot hgone
    obtain ⟨hkeeps, hevents⟩ := run_of_not_receiverOpen ⟨hlag hover, hclosed⟩ later
    exact ⟨hkeeps.1, fun item outcome hevent => hevents _ hevent item outcome rfl⟩
  · intro hover hgone hheld n
    have hsink : queue.sinkOpen = false := by
      rw [← Bool.not_eq_true, h.sink]
      exact fun hnot => hnot hgone
    exact run_receive_of_not_sinkOpen (hlag hover) hsink (h.receiver.mpr hheld) n

-- there is room for one item in any case, and room that comes after an overflow is of no use
example : ((ofCapacity 0 : Queue Nat).run
    [.deliver 1, .deliver 2, .receive, .deliver 3, .dropReceiver, .deliver 4]).2
      = [.delivered 1 .accepted, .delivered 2 (.refused .lagged), .received .ended,
        .delivered 3 (.refused .lagged), .receiverDropped, .delivered 4 (.refused .lagged)] := rfl

end Queue

end ReportRelay
