/-
# The ledger of a hub

The ledger notes, from the moves of a hub alone, which reports have been published and which
stretch of them each subscription has a part in: the reports kept at its attachment, and from
there on every report up to its removal.  A report that is being published while a
subscription is removed counts for it only if its turn came before.

`Ledger.Keeps` is the invariant that ties the ledger to the hub and to the messages that it
has handed over; its field `balance` is the point of it.
-/
import ReportRelay.Proofs.Cache
import ReportRelay.Proofs.Hub.Handed

namespace ReportRelay

/-! ## The ledger -/

/-- The part of a subscription in the published reports. -/
structure Tenure where
  /-- The reports kept when it was attached, oldest first. -/
  kept : List Json
  /-- How many reports had been published when it was attached. -/
  joined : Nat
  /-- How many reports had been published when it was removed, but for one that was being
  published and had not reached it; nothing before its removal. -/
  left : Option Nat

/-- What is noted of the moves of a hub. -/
structure Ledger where
  /-- The published reports, oldest first. -/
  published : List Json
  /-- The parts of the subscriptions that have been attached. -/
  tenure : SubscriptionId → Option Tenure

/-- Tells whether the turn of a subscription is still to come in the running publication. -/
def Hub.awaitsTurn (hub : Hub) (id : SubscriptionId) : Bool :=
  hub.bus.running.any fun publication => publication.pending.contains id

namespace Ledger

/-- The ledger of a hub that has not been moved. -/
def empty : Ledger := ⟨[], fun _ => none⟩

/-- Notes that a report is published. -/
def publish (ledger : Ledger) (report : Json) : Ledger :=
  { ledger with published := ledger.published ++ [report] }

/-- Notes that a subscription is attached, for which these reports are kept. -/
def join (ledger : Ledger) (id : SubscriptionId) (kept : List Json) : Ledger :=
  { ledger with
    tenure := fun other =>
      if other = id then some ⟨kept, ledger.published.length, none⟩ else ledger.tenure other }

/-- Notes that a subscription is removed, and whether it awaits its turn. -/
def leave (ledger : Ledger) (id : SubscriptionId) (awaits : Bool) : Ledger :=
  { ledger with
    tenure := fun other =>
      if other = id then
        (ledger.tenure id).map fun tenure =>
          { tenure with left := some (ledger.published.length - if awaits then 1 else 0) }
      else ledger.tenure other }

/-- Notes a move of a hub.  A busy hub takes no report and no subscriber, and only a
registered subscription can be removed. -/
def note (ledger : Ledger) (hub : Hub) (move : HubMove) : Ledger :=
  match move with
  | .ingest report => if hub.isBusy then ledger else ledger.publish report
  | .attach => if hub.isBusy then ledger else ledger.join hub.bus.nextId hub.cached
  | .finish _ => ledger
  | .detach id | .release id | .discard id =>
    if hub.bus.registered.contains id then ledger.leave id (hub.awaitsTurn id) else ledger

/-- Notes moves of a hub one after another. -/
def noteAll (ledger : Ledger) (hub : Hub) : List HubMove → Ledger
  | [] => ledger
  | move :: moves => noteAll (ledger.note hub move) (hub.step move).1 moves

/-- The ledger of moves of a hub with the given settings. -/
def ofMoves (config : HubConfig) (moves : List HubMove) : Ledger :=
  empty.noteAll (Hub.ofConfig config) moves

/-- How many of the published reports had been published when the part of a subscription
ended, or have been by now. -/
def last (ledger : Ledger) (tenure : Tenure) : Nat := tenure.left.getD ledger.published.length

/-- The reports published after the attachment of a subscription and before its removal. -/
def live (ledger : Ledger) (tenure : Tenure) : List Json :=
  (ledger.published.take (ledger.last tenure)).drop tenure.joined

/-- The reports that a subscription is due: those kept at its attachment, and those published
from then on while it was registered. -/
def due (ledger : Ledger) (id : SubscriptionId) : List Json :=
  match ledger.tenure id with
  | none => []
  | some tenure => tenure.kept ++ ledger.live tenure

end Ledger

/-! ## The invariant -/

namespace Hub

/-- A replay to the subscription of this number is running. -/
def IsJoining (hub : Hub) (id : SubscriptionId) : Prop :=
  hub.replay.isSome ∧ id = hub.bus.nextId

/-- The subscription has been attached, or is being attached. -/
def IsKnown (hub : Hub) (id : SubscriptionId) : Prop := hub.bus.IsCreated id ∨ hub.IsJoining id

/-- The subscription is registered, or is being attached. -/
def IsPresent (hub : Hub) (id : SubscriptionId) : Prop :=
  id ∈ hub.bus.registered ∨ hub.IsJoining id

/-- An idle hub attaches nobody. -/
theorem not_isJoining {hub : Hub} (hidle : hub.isBusy = false) (id : SubscriptionId) :
    ¬hub.IsJoining id := by
  rw [IsJoining, (hub.not_isBusy_iff.mp hidle).1]
  simp

/-- The number that an idle hub gives out next is not known. -/
theorem not_isKnown_nextId {hub : Hub} (hidle : hub.isBusy = false) :
    ¬hub.IsKnown hub.bus.nextId := by
  rintro (hcreated | hjoining)
  · exact Nat.lt_irrefl _ hcreated.2
  · exact not_isJoining hidle _ hjoining

/-- Whoever is registered has been attached. -/
theorem Sound.isKnown {hub : Hub} (h : hub.Sound) {id : SubscriptionId}
    (hid : hub.IsPresent id) : hub.IsKnown id :=
  hid.imp_left (h.bus.created id)

/-- Going on with a replay leaves the history as it is. -/
@[simp] theorem replayOn_history (hub : Hub) (accepted : Nat) (pending : List Message) :
    (hub.replayOn accepted pending).1.history = hub.history := by
  cases pending <;> rfl

/-- Going on with a replay leaves the running publications as they are. -/
@[simp] theorem replayOn_running (hub : Hub) (accepted : Nat) (pending : List Message) :
    (hub.replayOn accepted pending).1.bus.running = hub.bus.running := by
  cases pending <;> rfl

/-- Going on with a replay, or starting one, lets the new subscription be known. -/
theorem isKnown_replayOn {hub : Hub} (h : hub.Sound) (accepted : Nat) (pending : List Message)
    (id : SubscriptionId) :
    (hub.replayOn accepted pending).1.IsKnown id
      ↔ hub.bus.IsCreated id ∨ id = hub.bus.nextId := by
  cases pending with
  | cons message pending => simp [replayOn, IsKnown, IsJoining]
  | nil =>
      simp only [replayOn, IsKnown, IsJoining, Option.isSome_none, Bool.false_eq_true, false_and,
        or_false]
      exact h.bus.isCreated_subscribe id

/-- Going on with a replay, or starting one, lets the new subscription be present. -/
theorem isPresent_replayOn {hub : Hub} (accepted : Nat) (pending : List Message)
    (id : SubscriptionId) :
    (hub.replayOn accepted pending).1.IsPresent id
      ↔ id ∈ hub.bus.registered ∨ id = hub.bus.nextId := by
  cases pending with
  | cons message pending => simp [replayOn, IsPresent, IsJoining]
  | nil => simp [replayOn, IsPresent, IsJoining, Bus.subscribe]

/-- A registered subscription is promised the report that is being published exactly while
its turn is still to come. -/
theorem Sound.outstanding_of_mem {hub : Hub} (h : hub.Sound) {id : SubscriptionId}
    (hid : id ∈ hub.bus.registered) :
    (hub.awaitsTurn id = false ∧ hub.outstanding id = []) ∨
      ∃ publication ∈ hub.bus.running, id ∈ publication.pending ∧ hub.awaitsTurn id = true ∧
        hub.outstanding id = [publication.message] := by
  cases hreplay : hub.replay with
  | some replay =>
      have hrun := h.replay_alone (by rw [hreplay]; rfl)
      have hne : id ≠ hub.bus.nextId := fun heq => h.bus.nextId_notMem (heq ▸ hid)
      exact Or.inl ⟨by simp [awaitsTurn, hrun], by simp [outstanding, hreplay, hne]⟩
  | none =>
      cases hrun : hub.bus.running with
      | nil =>
          exact Or.inl ⟨by simp [awaitsTurn, hrun],
            by simp [outstanding, hreplay, Bus.outstanding, hrun]⟩
      | cons publication outer =>
          have houter : outer = [] := by simpa [hrun] using h.one_running
          by_cases hmem : id ∈ publication.pending
          · refine Or.inr ⟨publication, by simp, hmem, by simp [awaitsTurn, hrun, hmem], ?_⟩
            simp [outstanding, hreplay, Bus.outstanding, hrun, hmem, hid]
          · refine Or.inl ⟨by simp [awaitsTurn, hrun, hmem, houter], ?_⟩
            simp [outstanding, hreplay, Bus.outstanding, hrun, hmem]

/-- The messages kept by a hub that has only been given reports. -/
theorem cached_of_history {hub : Hub} {room : Nat} {reports : List Json}
    (h : hub.history = ⟨room, reports.map .newReport⟩) : hub.cached = reports := by
  rw [cached, h, List.filterMap_map]
  exact List.filterMap_some

end Hub

/-- The part of a subscription lies within the published reports, and begins with the last
of those that had been published when it was attached. -/
structure Tenure.Fits (room : Nat) (ledger : Ledger) (tenure : Tenure) : Prop where
  joined_le : tenure.joined ≤ ledger.last tenure
  last_le : ledger.last tenure ≤ ledger.published.length
  kept_eq : tenure.kept = (ledger.published.take tenure.joined).rtake room

/-- The ledger is right about a hub that has handed over the given messages. -/
structure Ledger.Keeps (config : HubConfig) (ledger : Ledger) (hub : Hub)
    (given : SubscriptionId → List Message) : Prop where
  /-- The hub is sound. -/
  sound : hub.Sound
  /-- The hub keeps the last of the published reports. -/
  history : hub.history
    = ⟨config.cache, (ledger.published.rtake config.cache).map .newReport⟩
  /-- The subscriptions with a part are those that have been or are being attached. -/
  known : ∀ id, (ledger.tenure id).isSome ↔ hub.IsKnown id
  /-- Their parts lie within the published reports. -/
  fits : ∀ id tenure, ledger.tenure id = some tenure → tenure.Fits config.cache ledger
  /-- Their parts end with their removal. -/
  left : ∀ id tenure, ledger.tenure id = some tenure → (tenure.left = none ↔ hub.IsPresent id)
  /-- What is being published is the last report, and those whose turn is still to come were
  attached before. -/
  publishing : ∀ publication ∈ hub.bus.running, ∃ earlier report,
    ledger.published = earlier ++ [report] ∧ publication.message = .newReport report ∧
      ∀ id ∈ publication.pending, ∀ tenure, ledger.tenure id = some tenure →
        tenure.joined ≤ earlier.length
  /-- What has been handed over and what is still to be handed over is what is due. -/
  balance : ∀ id, given id ++ hub.outstanding id = (ledger.due id).map .newReport

end ReportRelay
