/-
# The registrations of a hub

A subscription is registered once, when it is attached, and removed at most once: by its number,
through its handle or by the discarding of its handle, whichever comes first.  Each move is one of
three (`Sound.registration_cases`): it removes a registered subscription, it was to remove one
that is not registered, or it removes nothing.  So the events of a run are the books of the
registrations (`Sound.books_run`), and a subscription that has been removed is neither registered
nor called again.
-/
import ReportRelay.Proofs.Hub.Calls

namespace ReportRelay

/-! ## Events about registrations -/

/-- The subscription that an event shows as attached. -/
def HubEvent.attachedId? : HubEvent → Option SubscriptionId
  | .attached id _ => some id
  | _ => none

/-- The subscription that an event shows as removed. -/
def HubEvent.removedId? : HubEvent → Option SubscriptionId
  | .detached id true => some id
  | _ => none

/-- The subscriptions that events show as attached, in their order. -/
def attachedIds (events : List HubEvent) : List SubscriptionId :=
  events.filterMap HubEvent.attachedId?

/-- The subscriptions that events show as removed, in their order. -/
def removedIds (events : List HubEvent) : List SubscriptionId :=
  events.filterMap HubEvent.removedId?

@[simp] theorem attachedIds_nil : attachedIds [] = [] := rfl

@[simp] theorem removedIds_nil : removedIds [] = [] := rfl

@[simp] theorem attachedIds_append (events later : List HubEvent) :
    attachedIds (events ++ later) = attachedIds events ++ attachedIds later :=
  List.filterMap_append

@[simp] theorem removedIds_append (events later : List HubEvent) :
    removedIds (events ++ later) = removedIds events ++ removedIds later :=
  List.filterMap_append

@[simp] theorem attachedIds_finished (id : SubscriptionId) (outcome : Outcome)
    (events : List HubEvent) : attachedIds (.finished id outcome :: events) = attachedIds events :=
  rfl

@[simp] theorem removedIds_finished (id : SubscriptionId) (outcome : Outcome)
    (events : List HubEvent) : removedIds (.finished id outcome :: events) = removedIds events :=
  rfl

/-- A turn attaches and removes nobody. -/
theorem ids_turn (bus : Bus) (message : Message) (accepted : Nat)
    (pending : List SubscriptionId) :
    attachedIds ((bus.turn message accepted pending).2.map HubEvent.ofBus) = [] ∧
      removedIds ((bus.turn message accepted pending).2.map HubEvent.ofBus) = [] := by
  rcases Bus.turn_cases bus message accepted pending with ⟨-, heq⟩ | ⟨_, _, _, -, -, -, heq⟩ <;>
    rw [heq] <;> exact ⟨rfl, rfl⟩

namespace Hub

variable {hub : Hub} {id : SubscriptionId} {move : HubMove}

/-! ## What a move does to the registrations -/

/-- The move attaches a subscription under the next number, or attaches nobody; it removes
nobody. -/
structure Admits (hub : Hub) (moved : Hub × List HubEvent) : Prop where
  registered : moved.1.bus.registered = hub.bus.registered ++ attachedIds moved.2
  removed : removedIds moved.2 = []
  attached : (attachedIds moved.2 = [] ∧ moved.1.bus.nextId = hub.bus.nextId) ∨
    (attachedIds moved.2 = [hub.bus.nextId] ∧ moved.1.bus.nextId = hub.bus.nextId + 1)

/-- Where nothing happens, nobody is attached. -/
theorem admits_stay (hub : Hub) : Admits hub (hub, []) :=
  ⟨(List.append_nil _).symm, rfl, Or.inl ⟨rfl, rfl⟩⟩

/-- A replay ends with the registration of its subscriber. -/
theorem admits_replayOn (hub : Hub) (accepted : Nat) (pending : List Message) :
    Admits hub (hub.replayOn accepted pending) := by
  cases pending with
  | nil => exact ⟨rfl, rfl, Or.inr ⟨rfl, rfl⟩⟩
  | cons message pending => exact ⟨(List.append_nil _).symm, rfl, Or.inl ⟨rfl, rfl⟩⟩

/-- A publication attaches nobody. -/
theorem admits_ingest (hub : Hub) (report : Json) : Admits hub (hub.ingest report) := by
  obtain ⟨hattached, hremoved⟩ :=
    ids_turn hub.bus (.newReport report) 0 hub.bus.registered
  refine ⟨?_, hremoved, Or.inl ⟨hattached, ?_⟩⟩
  · show (hub.bus.turn _ 0 _).1.registered = _ ++ attachedIds ((hub.bus.turn _ 0 _).2.map _)
    rw [hattached, Bus.turn_registered, List.append_nil]
  · exact Bus.turn_nextId _ _ _ _

/-- The end of a delivery attaches nobody, unless it ends a replay. -/
theorem admits_finish (hub : Hub) (outcome : Outcome) : Admits hub (hub.finish outcome) := by
  unfold finish
  cases hreplay : hub.replay with
  | some replay =>
      obtain ⟨hregistered, hremoved, hattached⟩ :=
        admits_replayOn hub (replay.accepted + outcome.count) replay.pending
      exact ⟨hregistered, hremoved, hattached⟩
  | none =>
      have hevents : attachedIds ((hub.bus.finish outcome).2.map HubEvent.ofBus) = [] ∧
          removedIds ((hub.bus.finish outcome).2.map HubEvent.ofBus) = [] := by
        unfold Bus.finish
        cases hub.bus.running with
        | nil => exact ⟨rfl, rfl⟩
        | cons publication outer => exact ids_turn _ _ _ _
      refine ⟨?_, hevents.2, Or.inl ⟨hevents.1, Bus.finish_nextId _ _⟩⟩
      show (hub.bus.finish outcome).1.registered
        = _ ++ attachedIds ((hub.bus.finish outcome).2.map HubEvent.ofBus)
      rw [hevents.1, Bus.finish_registered, List.append_nil]

/-- A move that is not to remove anybody does not. -/
theorem admits_step (hub : Hub) (hmove : move.removes? = none) : Admits hub (hub.step move) := by
  cases move with
  | ingest report =>
      rw [step]
      split
      · exact admits_stay hub
      · exact admits_ingest hub report
  | attach =>
      rw [step]
      split
      · exact admits_stay hub
      · exact admits_replayOn hub 0 hub.history.items
  | finish outcome => exact admits_finish hub outcome
  | detach other => cases hmove
  | release other => cases hmove
  | discard other => cases hmove

/-- Removing a subscription by its number shows whether it was registered. -/
theorem events_detach (hub : Hub) (id : SubscriptionId) :
    (hub.detach id).2 = [.detached id (decide (id ∈ hub.bus.registered))] := by
  show (hub.bus.unsubscribe id).2.map HubEvent.ofBus = _
  rw [Bus.unsubscribe_events]
  rfl

/-- So does removing it through its handle, unless the handle is spent. -/
theorem Sound.events_release (h : hub.Sound) (id : SubscriptionId) :
    (hub.release id).2 = [.detached id (decide (id ∈ hub.bus.registered))] ∨
      ((hub.release id).2 = [] ∧ id ∉ hub.bus.registered) := by
  unfold Hub.release
  split
  · left
    exact events_detach _ id
  · next hnone =>
      right
      exact ⟨rfl, fun hid => hnone id (h.handle_registered id hid)⟩

/-- Each of the three ways shows whether the subscription was registered, or shows nothing and it
was not. -/
theorem Sound.events_removes (h : hub.Sound) (hmove : move.removes? = some id) :
    (hub.step move).2 = [.detached id (decide (id ∈ hub.bus.registered))] ∨
      ((hub.step move).2 = [] ∧ id ∉ hub.bus.registered) := by
  cases move with
  | detach other =>
      cases hmove
      exact Or.inl (events_detach hub id)
  | release other =>
      cases hmove
      exact h.events_release id
  | discard other =>
      cases hmove
      exact h.events_release id
  | ingest report => cases hmove
  | attach => cases hmove
  | finish outcome => cases hmove

/-- The removal of a registered subscription takes it out, and shows so. -/
theorem Sound.removes_of_mem (h : hub.Sound) (hmove : move.removes? = some id)
    (hid : id ∈ hub.bus.registered) :
    (hub.step move).1.bus.registered = hub.bus.registered.erase id ∧
      (hub.step move).2 = [.detached id true] := by
  constructor
  · rw [(h.removed_step hmove).bus, Bus.unsubscribe_of_mem hid]
  · rcases h.events_removes hmove with hevents | ⟨-, hnot⟩
    · rw [hevents, decide_eq_true hid]
    · exact absurd hid hnot

/-- The removal of a subscription that is not registered changes nothing on the bus, and shows no
removal. -/
theorem Sound.removes_of_notMem (h : hub.Sound) (hmove : move.removes? = some id)
    (hid : id ∉ hub.bus.registered) :
    (hub.step move).1.bus = hub.bus ∧ removedIds (hub.step move).2 = [] := by
  constructor
  · rw [(h.removed_step hmove).bus, Bus.unsubscribe_of_notMem hid]
  · rcases h.events_removes hmove with hevents | ⟨hevents, -⟩
    · rw [hevents, decide_eq_false hid]
      rfl
    · rw [hevents]
      rfl

/-- A removal takes its subscription out of the registered ones, if it is there. -/
theorem Sound.registered_removes (h : hub.Sound) (hmove : move.removes? = some id) :
    (hub.step move).1.bus.registered = hub.bus.registered.erase id := by
  by_cases hid : id ∈ hub.bus.registered
  · exact (h.removes_of_mem hmove hid).1
  · rw [(h.removes_of_notMem hmove hid).1, List.erase_of_not_mem hid]

/-- No removal attaches anybody. -/
theorem Sound.attachedIds_removes (h : hub.Sound) (hmove : move.removes? = some id) :
    attachedIds (hub.step move).2 = [] := by
  rcases h.events_removes hmove with hevents | ⟨hevents, -⟩ <;> rw [hevents] <;> rfl

/-! ## The books of a run -/

/-- The events of a run are the books of a hub: the subscriptions that were attached ascend to the
next number, and each is either registered or has been removed once. -/
structure Books (hub : Hub) (events : List HubEvent) : Prop where
  ascending : (attachedIds events).Pairwise (· < ·)
  created : ∀ id, id ∈ attachedIds events ↔ hub.bus.IsCreated id
  balance : (hub.bus.registered ++ removedIds events).Perm (attachedIds events)

/-- The books of a hub that has not been moved are empty. -/
theorem books_ofConfig (config : HubConfig) : Books (ofConfig config) [] where
  ascending := List.Pairwise.nil
  created := by
    intro id
    constructor
    · intro hmem
      cases hmem
    · intro hid
      exact absurd hid.1 (Nat.not_lt.mpr (Nat.le_of_lt_succ hid.2))
  balance := List.Perm.refl _

variable {events : List HubEvent}

/-- Nobody who is attached is entered twice. -/
theorem Books.nodup (hb : Books hub events) : (attachedIds events).Nodup :=
  hb.ascending.imp Nat.ne_of_lt

/-- A move that removes nobody is entered by whom it attaches. -/
theorem Books.admits (hb : Books hub events) (h : hub.Sound) {moved : Hub × List HubEvent}
    (hmoved : Admits hub moved) : Books moved.1 (events ++ moved.2) := by
  have hcreated : ∀ id, moved.1.bus.IsCreated id
      ↔ id ∈ attachedIds events ++ attachedIds moved.2 := by
    intro id
    rw [List.mem_append, hb.created, Bus.IsCreated]
    rcases hmoved.attached with ⟨hnone, hnext⟩ | ⟨hone, hnext⟩
    · rw [hnone, hnext]
      exact (or_iff_left List.not_mem_nil).symm
    · rw [hone, hnext, List.mem_singleton]
      exact h.bus.isCreated_subscribe id
  constructor
  · rw [attachedIds_append]
    rcases hmoved.attached with ⟨hnone, -⟩ | ⟨hone, -⟩
    · rw [hnone, List.append_nil]
      exact hb.ascending
    · rw [hone, List.pairwise_append]
      refine ⟨hb.ascending, List.pairwise_singleton _ _, fun id hid next hnext => ?_⟩
      rw [List.mem_singleton.mp hnext]
      exact ((hb.created id).mp hid).2
  · intro id
    rw [attachedIds_append, hcreated]
  · rw [attachedIds_append, removedIds_append, hmoved.removed, List.append_nil,
      hmoved.registered, List.append_assoc]
    apply List.Perm.trans (List.Perm.append_left _ List.perm_append_comm)
    rw [← List.append_assoc]
    exact hb.balance.append_right _

/-- A removal is entered if the subscription was registered, and else it is nothing to the
books. -/
theorem Books.removes (hb : Books hub events) (h : hub.Sound)
    (hmove : move.removes? = some id) :
    Books (hub.step move).1 (events ++ (hub.step move).2) := by
  have hnext : (hub.step move).1.bus.nextId = hub.bus.nextId := by
    rw [(h.removed_step hmove).bus, Bus.unsubscribe_nextId]
  have hattached : attachedIds (events ++ (hub.step move).2) = attachedIds events := by
    rw [attachedIds_append, h.attachedIds_removes hmove, List.append_nil]
  constructor
  · rw [hattached]
    exact hb.ascending
  · intro other
    rw [hattached, Bus.IsCreated, hnext]
    exact hb.created other
  · rw [hattached, removedIds_append]
    by_cases hid : id ∈ hub.bus.registered
    · obtain ⟨hregistered, hevents⟩ := h.removes_of_mem hmove hid
      apply List.Perm.trans _ hb.balance
      -- the entry moves from the registered subscriptions to the removed ones
      have hentry : (hub.bus.registered.erase id ++ [id]).Perm hub.bus.registered :=
        List.perm_append_comm.trans (List.perm_cons_erase hid).symm
      rw [hregistered, hevents]
      apply List.Perm.trans (List.Perm.append_left _ List.perm_append_comm)
      show (hub.bus.registered.erase id ++ ([id] ++ removedIds events)).Perm _
      rw [← List.append_assoc]
      exact hentry.append_right _
    · obtain ⟨hbus, hevents⟩ := h.removes_of_notMem hmove hid
      rw [hbus, hevents, List.append_nil]
      exact hb.balance

/-- A move is entered in the books. -/
theorem Books.step (hb : Books hub events) (h : hub.Sound) (move : HubMove) :
    Books (hub.step move).1 (events ++ (hub.step move).2) := by
  cases hmove : move.removes? with
  | none => exact hb.admits h (admits_step hub hmove)
  | some id => exact hb.removes h hmove

/-- **The events of a run are the books of its registrations.** -/
theorem Books.run (hb : Books hub events) (h : hub.Sound) (moves : List HubMove) :
    Books (hub.run moves).1 (events ++ (hub.run moves).2) := by
  induction moves generalizing hub events with
  | nil => simpa [Hub.run] using hb
  | cons move moves ih =>
      have hrest := ih (hb.step h move) (h.step move)
      rw [List.append_assoc] at hrest
      exact hrest

/-! ## After a removal -/

/-- A subscription that has been attached is registered after a move if it was before and the move
is not to remove it. -/
theorem Sound.mem_step (h : hub.Sound) (hid : hub.bus.IsCreated id) (move : HubMove) :
    id ∈ (hub.step move).1.bus.registered
      ↔ id ∈ hub.bus.registered ∧ move.removes? ≠ some id := by
  cases hmove : move.removes? with
  | some other =>
      rw [(h.removed_step hmove).bus, h.bus.mem_unsubscribe, and_comm]
      simp only [ne_eq, Option.some.injEq, eq_comm]
  | none =>
      have hadmits := admits_step hub hmove
      rw [hadmits.registered, List.mem_append]
      simp only [ne_eq, reduceCtorEq, not_false_eq_true, and_true, or_iff_left_iff_imp]
      intro hattached
      rcases hadmits.attached with ⟨hnone, -⟩ | ⟨hone, -⟩
      · rw [hnone] at hattached
        cases hattached
      · -- the number that is given out now has not been given out before
        rw [hone, List.mem_singleton] at hattached
        exact absurd hid.2 (hattached ▸ Nat.lt_irrefl _)

/-- A number that has been given out stays so. -/
theorem Sound.isCreated_step (h : hub.Sound) (hid : hub.bus.IsCreated id) (move : HubMove) :
    (hub.step move).1.bus.IsCreated id := by
  have hnext : hub.bus.nextId ≤ (hub.step move).1.bus.nextId := by
    cases hmove : move.removes? with
    | some other => rw [(h.removed_step hmove).bus, Bus.unsubscribe_nextId]
    | none =>
        rcases (admits_step hub hmove).attached with ⟨-, hnext⟩ | ⟨-, hnext⟩ <;> rw [hnext]
        exact Nat.le_succ _
  exact ⟨hid.1, Nat.lt_of_lt_of_le hid.2 hnext⟩

/-- **A subscription stays registered until the first move that is to remove it, and is not
registered again.** -/
theorem Sound.mem_run (h : hub.Sound) (hid : hub.bus.IsCreated id) (moves : List HubMove) :
    id ∈ (hub.run moves).1.bus.registered
      ↔ id ∈ hub.bus.registered ∧ ∀ move ∈ moves, move.removes? ≠ some id := by
  induction moves generalizing hub with
  | nil => simp [Hub.run]
  | cons move moves ih =>
      show id ∈ ((hub.step move).1.run moves).1.bus.registered ↔ _
      rw [ih (h.step move) (h.isCreated_step hid move), h.mem_step hid, List.forall_mem_cons,
        and_assoc]

/-- Nothing is promised to a subscription that has been removed. -/
theorem outstanding_of_notMem (hcreated : hub.bus.IsCreated id)
    (hid : id ∉ hub.bus.registered) : hub.outstanding id = [] := by
  unfold outstanding
  cases hub.replay with
  | some replay => exact if_neg (Nat.ne_of_lt hcreated.2)
  | none =>
      unfold Bus.outstanding
      cases hub.bus.running with
      | nil => rfl
      | cons publication outer => exact if_neg fun hmem => hid hmem.2

/-- A subscription that has been removed is not called by a move, even if it has its place in the
running publication. -/
theorem Sound.handed_step_of_notMem (h : hub.Sound) (hcreated : hub.bus.IsCreated id)
    (hid : id ∉ hub.bus.registered) (move : HubMove) : handed id (hub.step move).2 = [] := by
  have hremoved : ∀ other, move.removes? = some other → handed id (hub.step move).2 = [] :=
    fun other hother => (h.removed_step hother).handed id
  cases move with
  | ingest report =>
      rw [Hub.step]
      split
      · rfl
      · next hidle =>
          have hhanded := h.handed_ingest (by simpa using hidle) report id
          rw [if_neg hid] at hhanded
          exact (List.append_eq_nil_iff.mp hhanded).1
  | attach =>
      rw [Hub.step]
      split
      · rfl
      · next hidle =>
          have hrun := (hub.not_isBusy_iff.mp (by simpa using hidle)).2
          have hhanded := handed_replayOn hrun 0 hub.history.items id
          rw [if_neg (Nat.ne_of_lt hcreated.2)] at hhanded
          exact (List.append_eq_nil_iff.mp hhanded).1
  | finish outcome =>
      have hhanded := h.handed_finish outcome id
      rw [outstanding_of_notMem hcreated hid] at hhanded
      exact (List.append_eq_nil_iff.mp hhanded).1
  | detach other => exact hremoved other rfl
  | release other => exact hremoved other rfl
  | discard other => exact hremoved other rfl

/-- **A subscription that has been removed is not called again.** -/
theorem Sound.handed_run_of_notMem (h : hub.Sound) (hcreated : hub.bus.IsCreated id)
    (hid : id ∉ hub.bus.registered) (moves : List HubMove) : handed id (hub.run moves).2 = [] := by
  induction moves generalizing hub with
  | nil => rfl
  | cons move moves ih =>
      show handed id ((hub.step move).2 ++ ((hub.step move).1.run moves).2) = []
      have hrest : id ∉ (hub.step move).1.bus.registered := by
        rw [h.mem_step hcreated]
        exact fun hmem => hid hmem.1
      rw [handed_append, h.handed_step_of_notMem hcreated hid move,
        ih (h.step move) (h.isCreated_step hcreated move) hrest, List.append_nil]

/-! ## Runs -/

/-- Moves keep a hub sound. -/
theorem Sound.run (h : hub.Sound) (moves : List HubMove) : (hub.run moves).1.Sound := by
  induction moves generalizing hub with
  | nil => exact h
  | cons move moves ih => exact ih (h.step move)

/-- **Every registration is removed at most once, by the first move that is to remove it.**  Of
the subscriptions that have been attached, each one either is registered or has been removed, and
only once; so the registered ones are as many as were attached less those that were removed.  A
removal takes out its own subscription and no other, is shown exactly if that was registered, and
otherwise leaves the bus as it is; other moves remove nobody.  From the first move that is to
remove it, a subscription is not registered again and is not called. -/
theorem registrations_of_run (config : HubConfig) (moves : List HubMove) :
    let hub := ((ofConfig config).run moves).1
    let events := ((ofConfig config).run moves).2
    ((attachedIds events).Nodup ∧
      (hub.bus.registered ++ removedIds events).Perm (attachedIds events) ∧
      hub.subscriberCount + (removedIds events).length = (attachedIds events).length) ∧
    (∀ move id, move.removes? = some id →
      attachedIds (hub.step move).2 = [] ∧
      (id ∈ hub.bus.registered →
        (hub.step move).1.bus.registered = hub.bus.registered.erase id ∧
        (hub.step move).2 = [.detached id true]) ∧
      (id ∉ hub.bus.registered →
        (hub.step move).1.bus = hub.bus ∧ removedIds (hub.step move).2 = [])) ∧
    (∀ id, (hub.step (.detach id)).2 = [.detached id (decide (id ∈ hub.bus.registered))]) ∧
    (∀ move, move.removes? = none →
      (hub.step move).1.bus.registered = hub.bus.registered ++ attachedIds (hub.step move).2 ∧
      removedIds (hub.step move).2 = []) ∧
    ∀ id ∈ attachedIds events,
      (hub.handle? id ≠ some ⟨id, false⟩ → id ∉ hub.bus.registered) ∧
      (∀ later, id ∈ (hub.run later).1.bus.registered ↔
        id ∈ hub.bus.registered ∧ ∀ move ∈ later, move.removes? ≠ some id) ∧
      ∀ move, move.removes? = some id → ∀ later,
        handed id ((hub.step move).1.run later).2 = [] := by
  intro hub events
  have h : hub.Sound := (sound_ofConfig config).run moves
  have hbooks : Books hub events :=
    (books_ofConfig config).run (sound_ofConfig config) moves
  refine ⟨⟨hbooks.nodup, hbooks.balance, ?_⟩, fun move id hmove => ⟨h.attachedIds_removes hmove,
    h.removes_of_mem hmove, h.removes_of_notMem hmove⟩, events_detach hub, fun move hmove => ?_,
    fun id hid => ⟨fun hhandle hmem => ?_, fun later => ?_, fun move hmove later => ?_⟩⟩
  · rw [subscriberCount, ← List.length_append]
    exact hbooks.balance.length_eq
  · exact ⟨(admits_step hub hmove).registered, (admits_step hub hmove).removed⟩
  · exact hhandle (h.handle_registered id hmem)
  · exact h.mem_run ((hbooks.created id).mp hid) later
  · have hcreated := (hbooks.created id).mp hid
    apply (h.step move).handed_run_of_notMem (h.isCreated_step hcreated move)
    rw [h.mem_step hcreated]
    exact fun hmem => hmem.2 hmove

/-- While the first of two subscribers takes a report, it removes the second by its number; the
handle of that one then removes nothing, and it is not called, neither with this report nor with
later ones. -/
theorem registrations_of_removal_in_delivery :
    let moves := [.attach, .attach, .ingest (.string "r"), .detach 2]
    let hub := ((ofConfig ⟨1, 1⟩).run moves).1
    let events := ((ofConfig ⟨1, 1⟩).run moves).2
    (attachedIds events = [1, 2] ∧ removedIds events = [2] ∧ hub.subscriberCount + 1 = 2) ∧
      removedIds (hub.step (.discard 2)).2 = [] ∧
      ∀ later, handed 2 ((hub.step (.discard 2)).1.run later).2 = [] := by
  intro moves hub events
  obtain ⟨⟨-, -, hcount⟩, hremoves, -, -, hattached⟩ := registrations_of_run ⟨1, 1⟩ moves
  have hdiscard : HubMove.removes? (.discard 2) = some 2 := rfl
  have hmem : 2 ∈ attachedIds events := by decide
  have hnot : 2 ∉ hub.bus.registered := by decide
  exact ⟨⟨rfl, rfl, hcount⟩, ((hremoves _ 2 hdiscard).2.2 hnot).2,
    (hattached 2 hmem).2.2 _ hdiscard⟩

end Hub

end ReportRelay
