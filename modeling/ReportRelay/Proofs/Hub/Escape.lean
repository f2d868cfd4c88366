/-
# What an escaped panic leaves of a hub

A panic that escapes ends the replay or publication that runs, and leaves all else in a hub as it
is (`escape_frame`).  Where the end of a delivery hands over what was promised, an escaped panic
takes it from everybody (`Sound.handed_escape`); from then on the hub is idle, and sound.
-/
import ReportRelay.Escape
import ReportRelay.Proofs.Hub.Handed

namespace ReportRelay

@[simp] theorem handed_abandoned (id : SubscriptionId) (events : List HubEvent) :
    handed id (.abandoned :: events) = handed id events := rfl

namespace Hub

variable {hub : Hub}

/-- A hub that waits for a subscriber gives up when that panics and the panic escapes. -/
theorem escape_eq {id : SubscriptionId} {message : Message}
    (hcalling : hub.calling? = some (id, message)) (info : Option String) :
    hub.escape info = (hub.giveUp, [.finished id (.panicked info), .abandoned]) := by
  rw [escape, hcalling]

/-- Nobody panics while the hub waits for nobody. -/
theorem escape_of_none (hcalling : hub.calling? = none) (info : Option String) :
    hub.escape info = (hub, []) := by
  rw [escape, hcalling]

/-- An escaped panic leaves the reports that are kept, the subscriptions and their handles as
they are. -/
theorem escape_frame (hub : Hub) (info : Option String) :
    (hub.escape info).1.config = hub.config ∧ (hub.escape info).1.history = hub.history ∧
      (hub.escape info).1.bus.registered = hub.bus.registered ∧
      (hub.escape info).1.bus.nextId = hub.bus.nextId ∧
      (hub.escape info).1.handles = hub.handles := by
  cases hcalling : hub.calling? with
  | none => simp [escape_of_none hcalling]
  | some call => simp [escape_eq hcalling, giveUp]

/-- A sound hub that has given up runs no publication, as it has run one at most. -/
theorem Sound.running_giveUp (h : hub.Sound) : hub.giveUp.bus.running = [] := by
  rw [giveUp, ← List.length_eq_zero_iff, List.length_tail]
  exact Nat.sub_eq_zero_of_le h.one_running

/-- A sound hub that has given up is idle. -/
theorem Sound.isBusy_giveUp (h : hub.Sound) : hub.giveUp.isBusy = false :=
  hub.giveUp.not_isBusy_iff.mpr ⟨rfl, h.running_giveUp⟩

/-- A sound hub that has given up is sound. -/
theorem Sound.giveUp (h : hub.Sound) : hub.giveUp.Sound where
  bus := { h.bus with
    snapshot_ascending := fun p hp => h.bus.snapshot_ascending p (List.mem_of_mem_tail hp)
    snapshot_created := fun p hp => h.bus.snapshot_created p (List.mem_of_mem_tail hp) }
  replay_alone := fun hreplay => by cases hreplay
  one_running := by
    rw [h.running_giveUp]
    exact Nat.zero_le 1
  handle_registered := h.handle_registered
  handles_created := h.handles_created

/-- An escaped panic keeps a hub sound. -/
theorem Sound.escape (h : hub.Sound) (info : Option String) : (hub.escape info).1.Sound := by
  cases hcalling : hub.calling? with
  | none =>
      rw [escape_of_none hcalling]
      exact h
  | some call =>
      rw [escape_eq hcalling]
      exact h.giveUp

/-- A hub stays sound whatever happens to it. -/
theorem Sound.act (h : hub.Sound) (act : HubAct) : (hub.act act).1.Sound := by
  cases act with
  | move move => exact h.step move
  | escape info => exact h.escape info

/-- **An escaped panic takes from everybody what was still to be handed over.** -/
theorem Sound.handed_escape (h : hub.Sound) {id : SubscriptionId} {message : Message}
    (hcalling : hub.calling? = some (id, message)) (info : Option String)
    (other : SubscriptionId) :
    handed other (hub.escape info).2 = [] ∧ (hub.escape info).1.outstanding other = [] := by
  rw [escape_eq hcalling]
  exact ⟨by simp, outstanding_idle h.isBusy_giveUp other⟩

/-- Where no panic escapes, a hub makes moves. -/
theorem actAll_map_move (hub : Hub) (moves : List HubMove) :
    hub.actAll (moves.map .move) = hub.run moves := by
  induction moves generalizing hub with
  | nil => rfl
  | cons move moves ih => simp only [List.map_cons, actAll, act, run, ih]

/-- The first subscriber panics while it takes a report.  The second one gets the report if the
panic is contained, and does not if it escapes; it gets the next one. -/
example :
    let moves : List HubAct := [.move .attach, .move .attach, .move (.ingest (.string "one"))]
    let later : List HubAct := [.move (.ingest (.string "two")), .move (.finish .accepted)]
    handed 2 ((ofConfig {}).actAll (moves ++ .move (.finish (.panicked none)) ::
        .move (.finish .accepted) :: later)).2
        = [.newReport (.string "one"), .newReport (.string "two")] ∧
      handed 2 ((ofConfig {}).actAll (moves ++ .escape none :: later)).2
        = [.newReport (.string "two")] := ⟨rfl, rfl⟩

end Hub

end ReportRelay
