/-
# Publications within deliveries

A subscriber may act on the bus while it takes a message, and its acts may be publications of
their own.  `Bus.Acts` and `Bus.Deliveries` say what is to be seen of which moves, by the rules
of the bus alone and without its flags and running publications: a publication goes through the
subscriptions that are registered at its start, calls those that are registered at their turn,
and shows how many of these calls were accepted; what a subscriber does in its turn, to the end
of each publication among it, is done and seen between the start and the end of its delivery.

A bus that waits for deliveries has still to show the ends of them.  `Bus.Closes` says this of
the running publications, innermost first, and is what the induction over moves carries.  How
many deliveries have still to end is known (`callsLeft`), and as soon as so many have ended the
whole run is seen to follow the rules (`acts_of_run`).
-/
import Mathlib.Algebra.Ring.Nat
import ReportRelay.Proofs.Bus

namespace ReportRelay

/-! ## Registered subscriptions in events -/

/-- The subscriptions that are registered after an event. -/
def BusEvent.register (ids : List SubscriptionId) : BusEvent → List SubscriptionId
  | .subscribed id => ids ++ [id]
  | .unsubscribed id true => ids.erase id
  | _ => ids

namespace Bus

/-- The subscriptions that are registered after events. -/
def registeredAfter (ids : List SubscriptionId) (events : List BusEvent) : List SubscriptionId :=
  events.foldl BusEvent.register ids

@[simp] theorem registeredAfter_nil (ids : List SubscriptionId) :
    registeredAfter ids [] = ids := rfl

@[simp] theorem registeredAfter_append (ids : List SubscriptionId) (events later : List BusEvent) :
    registeredAfter ids (events ++ later)
      = registeredAfter (registeredAfter ids events) later :=
  List.foldl_append

@[simp] theorem registeredAfter_called (ids : List SubscriptionId) (id : SubscriptionId)
    (message : Message) (events : List BusEvent) :
    registeredAfter ids (.called id message :: events) = registeredAfter ids events := rfl

@[simp] theorem registeredAfter_finished (ids : List SubscriptionId) (id : SubscriptionId)
    (outcome : Outcome) (events : List BusEvent) :
    registeredAfter ids (.finished id outcome :: events) = registeredAfter ids events := rfl

@[simp] theorem registeredAfter_published (ids : List SubscriptionId) (message : Message)
    (accepted : Nat) (events : List BusEvent) :
    registeredAfter ids (.published message accepted :: events) = registeredAfter ids events :=
  rfl

/-! ## The rules -/

mutual

/-- What is to be seen of moves on a bus on which these subscriptions are registered, each
publication among the moves to its end.  The moves are made within a delivery, or outside of
all. -/
inductive Acts : Bool → List SubscriptionId → List BusMove → List BusEvent → Prop
  /-- Nothing is done. -/
  | nil {within : Bool} {ids : List SubscriptionId} : Acts within ids [] []
  /-- A subscriber is registered, after all that are. -/
  | subscribe {within : Bool} {ids : List SubscriptionId} {id : SubscriptionId}
      {moves : List BusMove} {later : List BusEvent} (hnew : ∀ other ∈ ids, other < id)
      (hlater : Acts within (ids ++ [id]) moves later) :
      Acts within ids (.subscribe :: moves) (.subscribed id :: later)
  /-- A subscription is removed, if it is registered. -/
  | unsubscribe {within : Bool} {ids : List SubscriptionId} {id : SubscriptionId}
      {moves : List BusMove} {later : List BusEvent}
      (hlater : Acts within (ids.erase id) moves later) :
      Acts within ids (.unsubscribe id :: moves) (.unsubscribed id (ids.contains id) :: later)
  /-- A message is published: it is delivered to the registered subscriptions in their order,
  and then the number of the deliveries is shown that were accepted. -/
  | publish {within : Bool} {ids : List SubscriptionId} {message : Message} {accepted : Nat}
      {turns moves : List BusMove} {events later : List BusEvent} (hasc : ids.Pairwise (· < ·))
      (hevents : Deliveries message ids ids accepted turns events)
      (hlater : Acts within (registeredAfter ids events) moves later) :
      Acts within ids (.publish message :: (turns ++ moves))
        (events ++ .published message accepted :: later)
  /-- The end of a delivery is nothing outside of all deliveries. -/
  | stray {ids : List SubscriptionId} {outcome : Outcome} {moves : List BusMove}
      {later : List BusEvent} (hlater : Acts false ids moves later) :
      Acts false ids (.finish outcome :: moves) later

/-- What is to be seen of the deliveries of a message on a bus on which the first subscriptions
are registered: the second ones are those whose turn is still to come, and so many of the
deliveries are accepted.  The moves are those that are made within the deliveries and the ends
of these. -/
inductive Deliveries : Message → List SubscriptionId → List SubscriptionId → Nat →
    List BusMove → List BusEvent → Prop
  /-- Every subscription has had its turn. -/
  | nil {message : Message} {ids : List SubscriptionId} : Deliveries message ids [] 0 [] []
  /-- The subscription was removed before its turn, and is not called. -/
  | pass {message : Message} {ids turns : List SubscriptionId} {id : SubscriptionId}
      {accepted : Nat} {moves : List BusMove} {events : List BusEvent} (hid : id ∉ ids)
      (hevents : Deliveries message ids turns accepted moves events) :
      Deliveries message ids (id :: turns) accepted moves events
  /-- The subscription is called, acts on the bus, and ends the delivery with an outcome. -/
  | call {message : Message} {ids turns : List SubscriptionId} {id : SubscriptionId}
      {outcome : Outcome} {accepted : Nat} {acts moves : List BusMove}
      {shown events : List BusEvent} (hid : id ∈ ids) (hacts : Acts true ids acts shown)
      (hevents : Deliveries message (registeredAfter ids shown) turns accepted moves events) :
      Deliveries message ids (id :: turns) (outcome.count + accepted)
        (acts ++ .finish outcome :: moves)
        (.called id message :: shown ++ .finished id outcome :: events)

end

/-- Subscriptions that have been removed before their turns are passed over. -/
theorem Deliveries.pass_append {message : Message} {ids skipped turns : List SubscriptionId}
    {accepted : Nat} {moves : List BusMove} {events : List BusEvent}
    (hskipped : ∀ id ∈ skipped, id ∉ ids)
    (h : Deliveries message ids turns accepted moves events) :
    Deliveries message ids (skipped ++ turns) accepted moves events := by
  induction skipped with
  | nil => exact h
  | cons id skipped ih =>
      have hrest := ih fun other hother => hskipped other (List.mem_cons_of_mem _ hother)
      exact .pass (hskipped id List.mem_cons_self) hrest

/-! ## The ends that are still to be seen -/

/-- What is still to be done and seen of running publications, innermost first, and of the moves
after them: the delivery that each waits for goes on and ends, and the others follow. -/
def Closes (ids : List SubscriptionId) :
    List Publication → List BusMove → List BusEvent → Prop
  | [], moves, events => Acts false ids moves events
  | publication :: outer, moves, events =>
    ∃ acts shown outcome accepted turns deliveries after later,
      moves = acts ++ .finish outcome :: (turns ++ after) ∧
      events = shown ++ .finished publication.current outcome :: deliveries
        ++ .published publication.message (publication.accepted + outcome.count + accepted)
          :: later ∧
      Acts true ids acts shown ∧
      Deliveries publication.message (registeredAfter ids shown) publication.pending accepted
        turns deliveries ∧
      Closes (registeredAfter (registeredAfter ids shown) deliveries) outer after later

/-- Moves come before what is still to be done and seen, as they come before other moves. -/
theorem Closes.act {ids after : List SubscriptionId} {running : List Publication}
    {moves : List BusMove} {events : List BusEvent} (h : Closes after running moves events)
    (done : List BusMove) (new : List BusEvent) (hafter : registeredAfter ids new = after)
    (hact : ∀ within later shown, Acts within after later shown →
      Acts within ids (done ++ later) (new ++ shown)) :
    Closes ids running (done ++ moves) (new ++ events) := by
  subst hafter
  cases running with
  | nil => exact hact false moves events h
  | cons publication outer =>
      obtain ⟨acts, shown, outcome, accepted, turns, deliveries, after, later, rfl, rfl, hacts,
        hdeliveries, hlater⟩ := h
      refine ⟨done ++ acts, new ++ shown, outcome, accepted, turns, deliveries, after, later,
        by simp, by simp, hact true acts shown hacts, ?_, ?_⟩
      · rw [registeredAfter_append]
        exact hdeliveries
      · rw [registeredAfter_append]
        exact hlater

/-- What is still to be done and seen of the innermost publication with the turns of its
subscriptions, after those that are passed over. -/
theorem Closes.turn {ids skipped : List SubscriptionId} {publication : Publication}
    {outer : List Publication} {moves : List BusMove} {events : List BusEvent}
    (hcurrent : publication.current ∈ ids) (hskipped : ∀ id ∈ skipped, id ∉ ids)
    (h : Closes ids (publication :: outer) moves events) :
    ∃ accepted turns deliveries after later,
      moves = turns ++ after ∧
      .called publication.current publication.message :: events
        = deliveries ++ .published publication.message (publication.accepted + accepted)
          :: later ∧
      Deliveries publication.message ids (skipped ++ publication.current :: publication.pending)
        accepted turns deliveries ∧
      Closes (registeredAfter ids deliveries) outer after later := by
  obtain ⟨acts, shown, outcome, accepted, turns, deliveries, after, later, rfl, rfl, hacts,
    hdeliveries, hlater⟩ := h
  refine ⟨outcome.count + accepted, acts ++ .finish outcome :: turns,
    .called publication.current publication.message :: shown
      ++ .finished publication.current outcome :: deliveries, after, later, ?_, ?_, ?_, ?_⟩
  · simp
  · simp [Nat.add_assoc]
  · exact (Deliveries.call hcurrent hacts hdeliveries).pass_append hskipped
  · simpa using hlater

/-! ## Moves show what the rules say -/

/-- What can be seen of a turn, with what the rules say of the bus after it, is what they say of
a publication whose turns these are, and of those around it. -/
theorem Sound.closes_turn {bus : Bus} (h : bus.Sound) (message : Message) (accepted : Nat)
    {pending : List SubscriptionId} (hcreated : ∀ id ∈ pending, bus.IsCreated id)
    {moves : List BusMove} {events : List BusEvent}
    (hcloses : Closes bus.registered (bus.turn message accepted pending).1.running moves
      events) :
    ∃ more turns deliveries after later,
      moves = turns ++ after ∧
      (bus.turn message accepted pending).2 ++ events
        = deliveries ++ .published message (accepted + more) :: later ∧
      Deliveries message bus.registered pending more turns deliveries ∧
      Closes (registeredAfter bus.registered deliveries) bus.running after later := by
  -- the flags that the turn looks at tell who is registered
  have hinactive : ∀ id ∈ pending, bus.isActive id = false → id ∉ bus.registered := by
    intro id hid hflag hmem
    rw [(h.isActive_iff (hcreated id hid)).mpr hmem] at hflag
    cases hflag
  rcases turn_cases bus message accepted pending with
    ⟨hall, heq⟩ | ⟨skipped, id, rest, rfl, hskipped, hactive, heq⟩
  · rw [heq] at hcloses ⊢
    have hpassed : Deliveries message bus.registered (pending ++ []) 0 [] [] :=
      Deliveries.nil.pass_append fun id hid => hinactive id hid (hall id hid)
    rw [List.append_nil] at hpassed
    exact ⟨0, [], [], moves, events, rfl, rfl, hpassed, hcloses⟩
  · rw [heq] at hcloses ⊢
    have hmem : id ∈ bus.registered := (h.isActive_iff (hcreated id (by simp))).mp hactive
    exact hcloses.turn hmem fun other hother =>
      hinactive other (by simp [hother]) (hskipped other hother)

/-- A move and what can be seen of it come before what is still to be done and seen after it. -/
theorem Sound.closes_step {bus : Bus} (h : bus.Sound) (move : BusMove) {moves : List BusMove}
    {events : List BusEvent}
    (hcloses : Closes (bus.step move).1.registered (bus.step move).1.running moves events) :
    Closes bus.registered bus.running (move :: moves) ((bus.step move).2 ++ events) := by
  cases move with
  | subscribe =>
      have hnew : ∀ other ∈ bus.registered, other < bus.nextId :=
        fun other hother => (h.created other hother).2
      exact hcloses.act [.subscribe] [.subscribed bus.nextId] rfl
        fun _ _ _ hlater => .subscribe hnew hlater
  | unsubscribe id =>
      simp only [Bus.step, unsubscribe_running] at hcloses ⊢
      rw [unsubscribe_events, ← List.contains_eq_mem]
      by_cases hid : id ∈ bus.registered
      · rw [unsubscribe_of_mem hid] at hcloses
        refine hcloses.act [.unsubscribe id] _ ?_ fun _ _ _ hlater => .unsubscribe hlater
        rw [List.contains_iff_mem.mpr hid]
        rfl
      · rw [unsubscribe_of_notMem hid] at hcloses
        refine hcloses.act [.unsubscribe id] _ ?_ fun _ _ _ hlater => .unsubscribe ?_
        · rw [show bus.registered.contains id = false by simpa using hid]
          rfl
        · rwa [List.erase_of_not_mem hid]
  | publish message =>
      simp only [Bus.step, turn_registered] at hcloses ⊢
      obtain ⟨more, turns, deliveries, after, later, rfl, heq, hdeliveries, hlater⟩ :=
        h.closes_turn message 0 h.created hcloses
      rw [heq, Nat.zero_add]
      have hact : ∀ within acts shown,
          Acts within (registeredAfter bus.registered deliveries) acts shown →
          Acts within bus.registered ((.publish message :: turns) ++ acts)
            ((deliveries ++ [.published message more]) ++ shown) := by
        intro within acts shown hacts
        rw [List.append_assoc]
        exact .publish h.ascending hdeliveries hacts
      have hall := hlater.act (.publish message :: turns)
        (deliveries ++ [.published message more]) (by simp) hact
      rwa [List.append_assoc] at hall
  | finish outcome =>
      simp only [Bus.step, finish_registered] at hcloses ⊢
      cases hrun : bus.running with
      | nil =>
          simp only [Bus.finish, hrun] at hcloses ⊢
          exact Acts.stray hcloses
      | cons publication outer =>
          have hcreated := h.snapshot_created publication (by simp [hrun])
          simp only [Bus.finish, hrun] at hcloses ⊢
          obtain ⟨more, turns, deliveries, after, later, rfl, heq, hdeliveries, hlater⟩ :=
            (h.outer hrun).closes_turn publication.message
              (publication.accepted + outcome.count)
              (fun id hid => hcreated id (List.mem_cons_of_mem _ hid)) hcloses
          refine ⟨[], [], outcome, more, turns, deliveries, after, later, rfl, ?_, .nil,
            hdeliveries, hlater⟩
          rw [List.cons_append, heq]
          rfl

/-! ## Runs -/

/-- A run that leaves nothing running shows what the rules say. -/
theorem Sound.closes_run {bus : Bus} (h : bus.Sound) {moves : List BusMove}
    (hidle : (bus.run moves).1.running = []) :
    Closes bus.registered bus.running moves (bus.run moves).2 := by
  induction moves generalizing bus with
  | nil =>
      have hrun : bus.running = [] := hidle
      rw [hrun]
      exact Acts.nil
  | cons move moves ih => exact h.closes_step move (ih (h.step move) hidle)

/-- Moves of a bus may be made in two runs. -/
theorem run_append (bus : Bus) (moves later : List BusMove) :
    bus.run (moves ++ later)
      = (((bus.run moves).1.run later).1,
        (bus.run moves).2 ++ ((bus.run moves).1.run later).2) := by
  induction moves generalizing bus with
  | nil => simp [run]
  | cons move moves ih => simp [run, ih]

/-! ## Deliveries that are left -/

/-- How many of these subscriptions are registered. -/
def turnsLeft (bus : Bus) (pending : List SubscriptionId) : Nat :=
  pending.countP bus.registered.contains

/-- How many deliveries have still to end before nothing runs, if nobody is removed meanwhile and
nothing else is published: of each running publication the one that it waits for, and those of
the subscriptions after it that are registered. -/
def callsLeft (bus : Bus) : Nat :=
  (bus.running.map fun publication => bus.turnsLeft publication.pending + 1).sum

/-- No delivery is left exactly while nothing runs. -/
theorem callsLeft_eq_zero_iff (bus : Bus) : bus.callsLeft = 0 ↔ bus.running = [] := by
  cases hrun : bus.running with
  | nil => simp [callsLeft, hrun]
  | cons publication outer => simp [callsLeft, hrun]

/-- A turn leaves as many deliveries as it is given subscriptions that are registered. -/
theorem Sound.callsLeft_turn {bus : Bus} (h : bus.Sound) (message : Message) (accepted : Nat)
    {pending : List SubscriptionId} (hcreated : ∀ id ∈ pending, bus.IsCreated id) :
    (bus.turn message accepted pending).1.callsLeft
      = bus.turnsLeft pending + bus.callsLeft := by
  have hactive : ∀ id ∈ pending, bus.registered.contains id = bus.isActive id := by
    intro id hid
    rw [Bool.eq_iff_iff, List.contains_iff_mem, h.isActive_iff (hcreated id hid)]
  have hskip : ∀ skipped, (∀ id ∈ skipped, id ∈ pending) →
      (∀ id ∈ skipped, bus.isActive id = false) → bus.turnsLeft skipped = 0 := by
    intro skipped hsub hskipped
    refine List.countP_eq_zero.mpr fun id hid => ?_
    rw [hactive id (hsub id hid), hskipped id hid]
    exact Bool.false_ne_true
  rcases turn_cases bus message accepted pending with
    ⟨hall, heq⟩ | ⟨skipped, id, rest, rfl, hskipped, hid, heq⟩
  · rw [heq, hskip pending (fun _ => id) hall, Nat.zero_add]
  · have hnone := hskip skipped (fun _ => List.mem_append_left _) hskipped
    rw [turnsLeft] at hnone
    have hone : bus.registered.contains id = true := by rw [hactive id (by simp), hid]
    rw [heq, turnsLeft, List.countP_append, hnone, List.countP_cons_of_pos hone, Nat.zero_add]
    rfl

/-- The end of a delivery leaves one less of them. -/
theorem Sound.callsLeft_finish {bus : Bus} (h : bus.Sound) (outcome : Outcome) :
    (bus.finish outcome).1.callsLeft = bus.callsLeft - 1 := by
  cases hrun : bus.running with
  | nil => simp [Bus.finish, hrun, (callsLeft_eq_zero_iff bus).mpr hrun]
  | cons publication outer =>
      have hcreated := h.snapshot_created publication (by simp [hrun])
      have hturn := (h.outer hrun).callsLeft_turn publication.message
        (publication.accepted + outcome.count)
        (fun id hid => hcreated id (List.mem_cons_of_mem _ hid))
      simp only [Bus.finish, hrun]
      rw [hturn]
      simp only [callsLeft, turnsLeft, hrun, List.map_cons, List.sum_cons]
      omega

/-- Ends of deliveries leave so many less of them. -/
theorem Sound.callsLeft_finishes {bus : Bus} (h : bus.Sound) (outcomes : List Outcome) :
    (bus.run (outcomes.map .finish)).1.callsLeft = bus.callsLeft - outcomes.length := by
  induction outcomes generalizing bus with
  | nil => rfl
  | cons outcome outcomes ih =>
      have hlater := ih (h.finish outcome)
      rw [h.callsLeft_finish, Nat.sub_sub, Nat.add_comm] at hlater
      exact hlater

/-- Nothing runs any more exactly when the deliveries that were left have ended. -/
theorem Sound.running_finishes {bus : Bus} (h : bus.Sound) (outcomes : List Outcome) :
    (bus.run (outcomes.map .finish)).1.running = [] ↔ bus.callsLeft ≤ outcomes.length := by
  rw [← callsLeft_eq_zero_iff, h.callsLeft_finishes, Nat.sub_eq_zero_iff_le]

/-! ## Registrations and removals that can be seen -/

/-- Events tell which subscriptions a bus has registered and removed meanwhile, and show no call
of one that is removed. -/
structure Shows (bus after : Bus) (events : List BusEvent) : Prop where
  registered : after.registered = registeredAfter bus.registered events
  created : ∀ id, after.IsCreated id ↔ bus.IsCreated id ∨ .subscribed id ∈ events
  retired : ∀ id, id ∈ after.retired ↔ id ∈ bus.retired ∨ .unsubscribed id true ∈ events
  called : ∀ id message, .called id message ∈ events → id ∉ bus.retired
  removed : events.Pairwise fun earlier later => ∀ id message,
    earlier = .unsubscribed id true → later ≠ .called id message

/-- Nothing is done, and nothing to be seen. -/
theorem Shows.refl (bus : Bus) : Shows bus bus [] where
  registered := rfl
  created := by simp
  retired := by simp
  called := by simp
  removed := .nil

/-- What can be seen of two parts of a run is seen of the whole. -/
theorem Shows.trans {bus middle after : Bus} {events later : List BusEvent}
    (h : Shows bus middle events) (hlater : Shows middle after later) :
    Shows bus after (events ++ later) where
  registered := by rw [hlater.registered, h.registered, registeredAfter_append]
  created := fun id => by rw [hlater.created, h.created, List.mem_append, or_assoc]
  retired := fun id => by rw [hlater.retired, h.retired, List.mem_append, or_assoc]
  called := by
    intro id message hmem hretired
    rcases List.mem_append.mp hmem with hmem | hmem
    · exact h.called id message hmem hretired
    · exact hlater.called id message hmem ((h.retired id).mpr (Or.inl hretired))
  removed := by
    refine List.pairwise_append.mpr ⟨h.removed, hlater.removed, ?_⟩
    -- who is removed in the first part is removed when the second one begins
    rintro _ hmem _ hmem' id message rfl rfl
    exact hlater.called id message hmem' ((h.retired id).mpr (Or.inr hmem))

/-- A turn registers and removes nobody, and calls an active subscription if any. -/
theorem shows_turn (bus : Bus) (message : Message) (accepted : Nat)
    (pending : List SubscriptionId) :
    Shows bus (bus.turn message accepted pending).1 (bus.turn message accepted pending).2 := by
  rcases turn_cases bus message accepted pending with ⟨-, heq⟩ | ⟨_, id, _, -, -, hactive, heq⟩
  · rw [heq]
    exact ⟨rfl, by simp, by simp, by simp, by simp⟩
  · have hnot : id ∉ bus.retired := by simpa [isActive] using hactive
    rw [heq]
    exact ⟨rfl, by simp [IsCreated], by simp, by simp [hnot], by simp⟩

/-- The end of a delivery registers and removes nobody. -/
theorem shows_finish (bus : Bus) (outcome : Outcome) :
    Shows bus (bus.finish outcome).1 (bus.finish outcome).2 := by
  cases hrun : bus.running with
  | nil =>
      simp only [finish, hrun]
      exact .refl bus
  | cons publication outer =>
      have hend : Shows bus { bus with running := outer }
          [.finished publication.current outcome] :=
        ⟨rfl, by simp [IsCreated], by simp, by simp, by simp⟩
      simp only [finish, hrun]
      exact hend.trans (shows_turn _ _ _ _)

/-- A move shows whom it registers and removes. -/
theorem Sound.shows_step {bus : Bus} (h : bus.Sound) (move : BusMove) :
    Shows bus (bus.step move).1 (bus.step move).2 := by
  cases move with
  | publish message => exact shows_turn bus message 0 bus.registered
  | finish outcome => exact shows_finish bus outcome
  | subscribe =>
      refine ⟨rfl, fun id => ?_, ?_, ?_, ?_⟩
      · simpa [Bus.step, Bus.subscribe] using h.isCreated_subscribe id
      · simp [Bus.step, Bus.subscribe]
      · simp [Bus.step, Bus.subscribe]
      · simp [Bus.step, Bus.subscribe]
  | unsubscribe id =>
      by_cases hid : id ∈ bus.registered
      · have hstep : bus.step (.unsubscribe id)
            = ({ bus with registered := bus.registered.erase id, retired := id :: bus.retired },
                [.unsubscribed id true]) := by
          simp [Bus.step, Bus.unsubscribe, hid]
        rw [hstep]
        refine ⟨rfl, by simp [IsCreated], fun other => ?_, by simp, by simp⟩
        simp [or_comm]
      · have hstep : bus.step (.unsubscribe id) = (bus, [.unsubscribed id false]) := by
          simp [Bus.step, Bus.unsubscribe, hid]
        rw [hstep]
        exact ⟨rfl, by simp, by simp, by simp, by simp⟩

/-- A run shows whom it registers and removes. -/
theorem Sound.shows_run {bus : Bus} (h : bus.Sound) (moves : List BusMove) :
    Shows bus (bus.run moves).1 (bus.run moves).2 := by
  induction moves generalizing bus with
  | nil => exact .refl bus
  | cons move moves ih => exact (h.shows_step move).trans (ih (h.step move))

/-! ## The contract -/

/-- **Publications within deliveries are made by the rules.**  A bus is moved from its beginning
by any acts of its users and of the subscribers that are called.  Then the subscriptions that are
registered are those that were registered and not removed since, in the order of their
registration.  Nothing runs as soon as the deliveries that are left have ended, whatever their
outcomes, and not before.  By then each move has shown what the rules say of it, a publication
its deliveries and its result with all that was done within them.  No subscription is called
after it has been removed. -/
theorem acts_of_run (moves : List BusMove) :
    let bus := (empty.run moves).1
    let events := (empty.run moves).2
    (bus.registered = registeredAfter [] events ∧ bus.registered.Pairwise (· < ·) ∧
      ∀ id, id ∈ bus.registered ↔
        .subscribed id ∈ events ∧ .unsubscribed id true ∉ events) ∧
    (∀ outcomes : List Outcome,
      let ended := bus.run (outcomes.map .finish)
      (ended.1.running = [] ↔ bus.callsLeft ≤ outcomes.length) ∧
      (ended.1.running = [] →
        Acts false [] (moves ++ outcomes.map .finish) (events ++ ended.2))) ∧
    events.Pairwise fun earlier later => ∀ id message,
      earlier = .unsubscribed id true → later ≠ .called id message := by
  intro bus events
  have hsound : bus.Sound := sound_empty.run moves
  have hshows : Shows empty bus events := sound_empty.shows_run moves
  refine ⟨⟨hshows.registered, hsound.ascending, fun id => ?_⟩, fun outcomes => ?_,
    hshows.removed⟩
  · have hcreated : bus.IsCreated id ↔ .subscribed id ∈ events := by
      have hnone : ¬empty.IsCreated id := fun h => Nat.not_lt.mpr (Nat.le_of_lt_succ h.2) h.1
      rw [hshows.created, or_iff_right hnone]
    have hremoved : id ∈ bus.retired ↔ .unsubscribed id true ∈ events := by
      rw [hshows.retired, or_iff_right (by simp [empty])]
    rw [← hcreated, ← hremoved, hsound.mem_retired]
    constructor
    · intro hid
      exact ⟨hsound.created id hid, fun h => h.2 hid⟩
    · rintro ⟨hid, hnot⟩
      exact Decidable.not_not.mp fun hmem => hnot ⟨hid, hmem⟩
  · refine ⟨hsound.running_finishes outcomes, fun hidle => ?_⟩
    have hrun := run_append empty moves (outcomes.map .finish)
    have hall : (empty.run (moves ++ outcomes.map .finish)).1.running = [] := by
      rw [hrun]
      exact hidle
    have hacts := sound_empty.closes_run hall
    rw [hrun] at hacts
    exact hacts

/-- The first of three subscribers removes the second one, registers another one and publishes
a message of its own.  Four deliveries are left then.  When they have ended, the rules have
been followed: the nested publication is over before the first subscriber has ended its
delivery, it comes to the new subscriber as well, the outer one does not, and the second
subscriber is called by neither. -/
theorem acts_of_nested_publication :
    let outer : Message := .newReport (.string "outer")
    let inner : Message := .newReport (.string "inner")
    let moves : List BusMove := [.subscribe, .subscribe, .subscribe, .publish outer,
      .unsubscribe 2, .subscribe, .publish inner, .finish .accepted]
    let outcomes : List Outcome := [.panicked none, .accepted, .accepted, .refused .closed]
    (empty.run moves).1.callsLeft = 4 ∧
      Acts false [] (moves ++ outcomes.map .finish)
        [.subscribed 1, .subscribed 2, .subscribed 3, .called 1 outer, .unsubscribed 2 true,
          .subscribed 4, .called 1 inner, .finished 1 .accepted, .called 3 inner,
          .finished 3 (.panicked none), .called 4 inner, .finished 4 .accepted,
          .published inner 2, .finished 1 .accepted, .called 3 outer,
          .finished 3 (.refused .closed), .published outer 1] := by
  intro outer inner moves outcomes
  obtain ⟨-, hended, -⟩ := acts_of_run moves
  exact ⟨rfl, (hended outcomes).2 rfl⟩

end Bus

end ReportRelay
