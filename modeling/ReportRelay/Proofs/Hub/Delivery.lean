/-
# What a subscriber gets from a hub

At every point of every run the hub keeps the last of the published reports, as many as its
settings allow, and has handed to each subscriber what the ledger says it is due, but for what
the replay or publication that still runs is about to hand over (`handed_append_outstanding`).
What is due is one contiguous stretch of the published reports, across the change from replayed
reports to live ones.

What runs comes to its end: each end of a delivery leaves fewer of them (`callsLeft_finish`), and
subscribers that remove others meanwhile do not leave more.  So the hub becomes idle, and has then
handed over all that was due.
-/
import ReportRelay.Proofs.Hub.Ledger

namespace ReportRelay

namespace Ledger

variable {config : HubConfig} {ledger : Ledger} {hub : Hub}
  {given : SubscriptionId → List Message}

/-! ## What is due after a noted move -/

/-- A subscription that has been removed, or never attached, has no part in a new report. -/
theorem due_publish_of_left (report : Json) {id : SubscriptionId} {tenure : Tenure} {last : Nat}
    (htenure : ledger.tenure id = some tenure) (hleft : tenure.left = some last)
    (hlast : last ≤ ledger.published.length) :
    (ledger.publish report).due id = ledger.due id := by
  simp only [due, publish, htenure, live, Ledger.last, hleft, Option.getD_some]
  rw [List.take_append_of_le_length hlast]

/-- A subscription that has not been removed has a part in a new report. -/
theorem due_publish_of_stays (report : Json) {id : SubscriptionId} {tenure : Tenure}
    (htenure : ledger.tenure id = some tenure) (hleft : tenure.left = none)
    (hjoined : tenure.joined ≤ ledger.published.length) :
    (ledger.publish report).due id = ledger.due id ++ [report] := by
  simp only [due, publish, htenure, live, Ledger.last, hleft, Option.getD_none, List.take_length]
  rw [List.drop_append_of_le_length hjoined, List.append_assoc]

/-- A new subscription is due the kept reports. -/
theorem due_join (id other : SubscriptionId) (kept : List Json) :
    (ledger.join id kept).due other = if other = id then kept else ledger.due other := by
  by_cases hid : other = id
  · simp [due, join, hid, live, Ledger.last]
  · simp only [due, join, hid, if_false]
    rfl

/-- A subscription that is removed at its turn or after is due what it was due before. -/
theorem due_leave_after {id other : SubscriptionId}
    (hleft : ∀ tenure, ledger.tenure id = some tenure → tenure.left = none) :
    (ledger.leave id false).due other = ledger.due other := by
  by_cases hid : other = id
  · subst hid
    cases htenure : ledger.tenure other with
    | none => simp [due, leave, htenure]
    | some tenure => simp [due, leave, htenure, live, Ledger.last, hleft tenure htenure]
  · simp only [due, leave, hid, if_false]
    rfl

/-- A subscription that is removed before its turn is not due the report that is being
published. -/
theorem due_leave_before {id : SubscriptionId} {tenure : Tenure} {earlier : List Json}
    {report : Json} (htenure : ledger.tenure id = some tenure) (hleft : tenure.left = none)
    (hpublished : ledger.published = earlier ++ [report])
    (hjoined : tenure.joined ≤ earlier.length) :
    (ledger.leave id true).due id ++ [report] = ledger.due id := by
  have hall : (earlier ++ [report]).take (earlier.length + 1) = earlier ++ [report] :=
    List.take_of_length_le (by simp)
  simp only [due, leave, htenure, if_true, Option.map_some, live, Ledger.last, hleft,
    Option.getD_some, Option.getD_none, hpublished, List.length_append, List.length_singleton,
    Nat.add_sub_cancel, List.take_left']
  rw [hall, List.drop_append_of_le_length hjoined, List.append_assoc]

/-- The removal of one subscription is nothing to the others. -/
theorem due_leave_other {id other : SubscriptionId} (hne : other ≠ id) (awaits : Bool) :
    (ledger.leave id awaits).due other = ledger.due other := by
  simp only [due, leave, hne, if_false]
  rfl

/-! ## Moves keep the ledger right -/

/-- The ledger of a hub that has not been moved is right. -/
theorem keeps_empty (config : HubConfig) : empty.Keeps config (.ofConfig config) fun _ => [] where
  sound := Hub.sound_ofConfig config
  history := by simp [Hub.ofConfig, empty]
  known := by
    intro id
    simp only [empty, Option.isSome_none, Bool.false_eq_true, Hub.IsKnown, Hub.IsJoining,
      Hub.ofConfig, Bus.IsCreated, Bus.empty, false_and, or_false, false_iff]
    exact fun h => absurd h.1 (Nat.not_lt.mpr (Nat.le_of_lt_succ h.2))
  fits := by simp [empty]
  left := by simp [empty]
  publishing := by simp [Hub.ofConfig, Bus.empty]
  balance := fun _ => rfl

/-- A move that publishes nothing, and attaches and removes nobody, keeps the ledger right if
it hands over what was outstanding. -/
theorem Keeps.of_frame (h : ledger.Keeps config hub given) {moved : Hub × List HubEvent}
    (hsound : moved.1.Sound) (hhistory : moved.1.history = hub.history)
    (hknown : ∀ id, moved.1.IsKnown id ↔ hub.IsKnown id)
    (hpresent : ∀ id, moved.1.IsPresent id ↔ hub.IsPresent id)
    (hrunning : ∀ p ∈ moved.1.bus.running, ∃ q ∈ hub.bus.running,
      p.message = q.message ∧ ∀ id ∈ p.pending, id ∈ q.pending)
    (hbalance : ∀ id, handed id moved.2 ++ moved.1.outstanding id = hub.outstanding id) :
    ledger.Keeps config moved.1 fun id => given id ++ handed id moved.2 where
  sound := hsound
  history := by rw [hhistory, h.history]
  known := fun id => by rw [h.known, hknown]
  fits := h.fits
  left := fun id tenure htenure => by rw [h.left id tenure htenure, hpresent]
  publishing := by
    intro p hp
    obtain ⟨q, hq, hmessage, hsub⟩ := hrunning p hp
    obtain ⟨earlier, report, hpublished, hreport, hjoined⟩ := h.publishing q hq
    exact ⟨earlier, report, hpublished, hmessage.trans hreport,
      fun id hid => hjoined id (hsub id hid)⟩
  balance := fun id => by rw [List.append_assoc, hbalance, h.balance]

/-- A tenure still fits when a report is published. -/
theorem fits_publish {room : Nat} {tenure : Tenure} (h : tenure.Fits room ledger)
    (report : Json) : tenure.Fits room (ledger.publish report) := by
  have hle := h.joined_le.trans h.last_le
  constructor
  · cases hleft : tenure.left with
    | none =>
        simp only [Ledger.last, hleft, publish, Option.getD_none, List.length_append]
        omega
    | some last =>
        have hjoined := h.joined_le
        simpa only [Ledger.last, hleft, Option.getD_some] using hjoined
  · cases hleft : tenure.left with
    | none => simp [Ledger.last, hleft]
    | some last =>
        have hlast := h.last_le
        simp only [Ledger.last, hleft, Option.getD_some, publish, List.length_append] at hlast ⊢
        omega
  · rw [h.kept_eq, publish, List.take_append_of_le_length hle]

/-- Publishing a report keeps the ledger right. -/
theorem Keeps.ingest (h : ledger.Keeps config hub given) (hidle : hub.isBusy = false)
    (report : Json) :
    (ledger.publish report).Keeps config (hub.ingest report).1
      fun id => given id ++ handed id (hub.ingest report).2 where
  sound := h.sound.ingest hidle report
  history := by
    simp only [Hub.ingest, Hub.moveBus, publish, h.history, Cache.push]
    rw [← Cache.rtake_map, Cache.drop_append_rtake, ← Cache.rtake_map, List.map_append]
    rfl
  known := by
    intro id
    simp only [Hub.ingest, Hub.moveBus, Bus.step, Hub.IsKnown, Hub.IsJoining, Bus.IsCreated,
      Bus.turn_nextId]
    exact h.known id
  fits := fun id tenure htenure => fits_publish (h.fits id tenure htenure) report
  left := by
    intro id tenure htenure
    simp only [Hub.ingest, Hub.moveBus, Bus.step, Hub.IsPresent, Hub.IsJoining,
      Bus.turn_nextId, Bus.turn_registered]
    exact h.left id tenure htenure
  publishing := by
    intro p hp
    rcases Bus.mem_turn_running hp with hold | ⟨hmessage, -⟩
    · simp [(hub.not_isBusy_iff.mp hidle).2] at hold
    · refine ⟨ledger.published, report, rfl, hmessage, ?_⟩
      intro id _ tenure htenure
      have hfits := h.fits id tenure htenure
      exact hfits.joined_le.trans hfits.last_le
  balance := by
    intro id
    have hgiven := h.balance id
    rw [Hub.outstanding_idle hidle, List.append_nil] at hgiven
    -- an idle hub owes nobody anything, so all that is new is the report, for the registered
    rw [List.append_assoc, h.sound.handed_ingest hidle, hgiven]
    -- the cases of the ledger: never attached, still there, and gone; only the second gets it
    cases htenure : ledger.tenure id with
    | none =>
        have hknown := h.known id
        simp only [htenure, Option.isSome_none, Bool.false_eq_true, false_iff] at hknown
        have hnot : id ∉ hub.bus.registered :=
          fun hid => hknown (h.sound.isKnown (Or.inl hid))
        simp [due, publish, htenure, hnot]
    | some tenure =>
        have hfits := h.fits id tenure htenure
        have hleft := h.left id tenure htenure
        cases hlast : tenure.left with
        | none =>
            have hreg : id ∈ hub.bus.registered :=
              (hleft.mp hlast).resolve_right (Hub.not_isJoining hidle id)
            rw [due_publish_of_stays report htenure hlast (hfits.joined_le.trans hfits.last_le)]
            simp [hreg]
        | some last =>
            have hnot : id ∉ hub.bus.registered := by
              intro hid
              rw [hleft.mpr (Or.inl hid)] at hlast
              cases hlast
            have hle := hfits.last_le
            simp only [Ledger.last, hlast, Option.getD_some] at hle
            rw [due_publish_of_left report htenure hlast hle]
            simp [hnot]

/-- Attaching a subscriber keeps the ledger right. -/
theorem Keeps.attach (h : ledger.Keeps config hub given) (hidle : hub.isBusy = false) :
    (ledger.join hub.bus.nextId hub.cached).Keeps config (hub.replayOn 0 hub.history.items).1
      fun id => given id ++ handed id (hub.replayOn 0 hub.history.items).2 where
  sound := h.sound.replayOn (hub.not_isBusy_iff.mp hidle).2 0 _
  history := by
    rw [Hub.replayOn_history]
    exact h.history
  known := by
    intro id
    rw [Hub.isKnown_replayOn h.sound]
    by_cases hid : id = hub.bus.nextId
    · simp [join, hid]
    · have hknown := h.known id
      rw [Hub.IsKnown, or_iff_left (Hub.not_isJoining hidle id)] at hknown
      simp [join, hid, hknown]
  fits := by
    intro id tenure htenure
    simp only [join] at htenure
    split at htenure
    · cases htenure
      refine ⟨Nat.le_refl _, Nat.le_refl _, ?_⟩
      simp only [join, List.take_length]
      exact Hub.cached_of_history h.history
    · exact { h.fits id tenure htenure with }
  left := by
    intro id tenure htenure
    rw [Hub.isPresent_replayOn]
    simp only [join] at htenure
    split at htenure
    · next hid =>
        cases htenure
        simp [hid]
    · next hid =>
        rw [h.left id tenure htenure, Hub.IsPresent, or_iff_left (Hub.not_isJoining hidle id),
          or_iff_left hid]
  publishing := by
    rw [Hub.replayOn_running, (hub.not_isBusy_iff.mp hidle).2]
    simp
  balance := by
    intro id
    have hgiven := h.balance id
    rw [Hub.outstanding_idle hidle, List.append_nil] at hgiven
    rw [List.append_assoc, Hub.handed_replayOn (hub.not_isBusy_iff.mp hidle).2, hgiven, due_join]
    by_cases hid : id = hub.bus.nextId
    · -- nobody with this number has been given anything
      have hnone : ledger.due id = [] := by
        have hknown := h.known id
        have hnot : ¬hub.IsKnown id := hid ▸ Hub.not_isKnown_nextId hidle
        rw [iff_false_right hnot, Option.not_isSome_iff_eq_none] at hknown
        rw [due, hknown]
      rw [hnone, if_pos hid, if_pos hid, Hub.cached_of_history h.history, h.history]
      rfl
    · rw [if_neg hid, if_neg hid, List.append_nil]

/-- Removing a registered subscription keeps the ledger right. -/
theorem Keeps.leave (h : ledger.Keeps config hub given) {id : SubscriptionId}
    (hid : id ∈ hub.bus.registered) {moved : Hub × List HubEvent}
    (hr : Hub.Removed id hub moved) (hsound : moved.1.Sound) :
    (ledger.leave id (hub.awaitsTurn id)).Keeps config moved.1
      fun other => given other ++ handed other moved.2 where
  sound := hsound
  history := by
    rw [hr.history]
    exact h.history
  known := by
    intro other
    have hknown := h.known other
    simp only [Hub.IsKnown, Hub.IsJoining, Bus.IsCreated, hr.bus, hr.replay,
      Bus.unsubscribe_nextId] at hknown ⊢
    rw [← hknown]
    by_cases heq : other = id
    · simp [Ledger.leave, heq]
    · simp [Ledger.leave, heq]
  fits := by
    intro other tenure htenure
    simp only [Ledger.leave] at htenure
    split at htenure
    · obtain ⟨was, hwas, rfl⟩ := Option.map_eq_some_iff.mp htenure
      have hfits := h.fits id was hwas
      have hle := hfits.joined_le.trans hfits.last_le
      refine ⟨?_, by simp [Ledger.last, Ledger.leave], hfits.kept_eq⟩
      simp only [Ledger.last, Option.getD_some]
      -- a removal before the turn goes back by one report, which came after the attachment
      rcases h.sound.outstanding_of_mem hid with ⟨hawaits, -⟩ | ⟨p, hp, hmem, hawaits, -⟩
      · simpa [hawaits] using hle
      · obtain ⟨earlier, report, hpublished, -, hjoined⟩ := h.publishing p hp
        simpa [hawaits, hpublished] using hjoined id hmem was hwas
    · exact { h.fits other tenure htenure with }
  left := by
    intro other tenure htenure
    have hnext := h.sound.bus.nextId_notMem
    simp only [Hub.IsPresent, Hub.IsJoining, hr.bus, hr.replay, Bus.unsubscribe_nextId,
      h.sound.bus.mem_unsubscribe]
    simp only [Ledger.leave] at htenure
    split at htenure
    · next heq =>
        obtain ⟨was, -, rfl⟩ := Option.map_eq_some_iff.mp htenure
        have hne : other ≠ hub.bus.nextId := fun h' => hnext (h' ▸ heq ▸ hid)
        simp [heq ▸ hne, heq]
    · next hne =>
        rw [h.left other tenure htenure, Hub.IsPresent, Hub.IsJoining]
        simp [hne]
  publishing := by
    intro p hp
    rw [hr.bus, Bus.unsubscribe_running] at hp
    obtain ⟨earlier, report, hpublished, hmessage, hjoined⟩ := h.publishing p hp
    refine ⟨earlier, report, hpublished, hmessage, ?_⟩
    intro other hother tenure htenure
    simp only [Ledger.leave] at htenure
    split at htenure
    · next heq =>
        obtain ⟨was, hwas, rfl⟩ := Option.map_eq_some_iff.mp htenure
        exact hjoined id (heq ▸ hother) was hwas
    · exact hjoined other hother tenure htenure
  balance := by
    intro other
    have hgiven := h.balance other
    rw [hr.handed, List.append_nil, h.sound.outstanding_removed hr]
    by_cases heq : other = id
    · subst heq
      have hleft : ∀ tenure, ledger.tenure other = some tenure → tenure.left = none :=
        fun tenure htenure => (h.left other tenure htenure).mpr (Or.inl hid)
      rw [if_pos ⟨rfl, hid⟩, List.append_nil]
      -- a promise that is taken back is the last report, which the ledger no longer counts
      rcases h.sound.outstanding_of_mem hid with ⟨hawaits, hnone⟩ | ⟨p, hp, hmem, hawaits, hsome⟩
      · rw [hnone, List.append_nil] at hgiven
        rw [hgiven, hawaits, due_leave_after hleft]
      · obtain ⟨earlier, report, hpublished, hmessage, hjoined⟩ := h.publishing p hp
        obtain ⟨tenure, htenure⟩ :=
          Option.isSome_iff_exists.mp ((h.known other).mpr (h.sound.isKnown (Or.inl hid)))
        rw [hsome, hmessage, ← due_leave_before htenure (hleft tenure htenure) hpublished
          (hjoined other hmem tenure htenure), List.map_append] at hgiven
        rw [hawaits]
        exact List.append_cancel_right hgiven
    · rw [if_neg (fun h' => heq h'.1), hgiven, due_leave_other heq]

/-- A removal keeps the ledger right. -/
theorem Keeps.removed (h : ledger.Keeps config hub given) {id : SubscriptionId}
    {moved : Hub × List HubEvent} (hr : Hub.Removed id hub moved) (hsound : moved.1.Sound) :
    (if hub.bus.registered.contains id then ledger.leave id (hub.awaitsTurn id)
      else ledger).Keeps config moved.1 fun other => given other ++ handed other moved.2 := by
  by_cases hid : id ∈ hub.bus.registered
  · rw [if_pos (by simpa using hid)]
    exact h.leave hid hr hsound
  · have hbus : moved.1.bus = hub.bus := by rw [hr.bus, Bus.unsubscribe_of_notMem hid]
    rw [if_neg (by simpa using hid)]
    refine h.of_frame hsound hr.history ?_ ?_ ?_ ?_
    · intro other
      rw [Hub.IsKnown, Hub.IsJoining, hbus, hr.replay]
      rfl
    · intro other
      rw [Hub.IsPresent, Hub.IsJoining, hbus, hr.replay]
      rfl
    · intro p hp
      rw [hbus] at hp
      exact ⟨p, hp, rfl, fun _ hmem => hmem⟩
    · intro other
      rw [hr.handed, h.sound.outstanding_removed hr, if_neg (fun h' => hid h'.2)]
      rfl

/-- The end of a delivery keeps the ledger right. -/
theorem Keeps.finish (h : ledger.Keeps config hub given) (outcome : Outcome) :
    ledger.Keeps config (hub.finish outcome).1
      fun id => given id ++ handed id (hub.finish outcome).2 := by
  have hsound := h.sound.finish outcome
  have hbalance := h.sound.handed_finish outcome
  cases hreplay : hub.replay with
  | some replay =>
      have hmoved : (hub.finish outcome).1
          = (hub.replayOn (replay.accepted + outcome.count) replay.pending).1 := by
        simp only [Hub.finish, hreplay]
      -- the end of the last replayed delivery registers the subscriber, who was present already
      refine h.of_frame hsound ?_ ?_ ?_ ?_ hbalance
      · rw [hmoved, Hub.replayOn_history]
      · intro id
        rw [hmoved, Hub.isKnown_replayOn h.sound]
        simp [Hub.IsKnown, Hub.IsJoining, hreplay]
      · intro id
        rw [hmoved, Hub.isPresent_replayOn]
        simp [Hub.IsPresent, Hub.IsJoining, hreplay]
      · intro p hp
        rw [hmoved, Hub.replayOn_running] at hp
        exact ⟨p, hp, rfl, fun _ hmem => hmem⟩
  | none =>
      have hmoved : (hub.finish outcome).1 = { hub with bus := (hub.bus.finish outcome).1 } := by
        simp only [Hub.finish, hreplay, Hub.moveBus, Bus.step]
      refine h.of_frame hsound ?_ ?_ ?_ ?_ hbalance
      -- no tail of this publication's snapshot is longer than the one before
      · rw [hmoved]
      · intro id
        simp [hmoved, Hub.IsKnown, Hub.IsJoining, Bus.IsCreated]
      · intro id
        simp [hmoved, Hub.IsPresent, Hub.IsJoining]
      · intro p hp
        rw [hmoved] at hp
        obtain ⟨q, hq, hmessage, rfl | hsub⟩ := Bus.mem_finish_running hp
        · exact ⟨p, hq, rfl, fun _ hmem => hmem⟩
        · exact ⟨q, hq, hmessage, fun id hmem => hsub id (List.mem_cons_of_mem _ hmem)⟩

/-- A move keeps the ledger right. -/
theorem Keeps.step (h : ledger.Keeps config hub given) (move : HubMove) :
    (ledger.note hub move).Keeps config (hub.step move).1
      fun id => given id ++ handed id (hub.step move).2 := by
  cases move with
  | ingest report =>
      by_cases hbusy : hub.isBusy
      · simpa [note, Hub.step, hbusy] using h
      · rw [Bool.not_eq_true] at hbusy
        simp only [note, Hub.step, hbusy, Bool.false_eq_true, if_false]
        exact h.ingest hbusy report
  | attach =>
      by_cases hbusy : hub.isBusy
      · simpa [note, Hub.step, hbusy] using h
      · rw [Bool.not_eq_true] at hbusy
        simp only [note, Hub.step, hbusy, Bool.false_eq_true, if_false]
        exact h.attach hbusy
  | finish outcome => exact h.finish outcome
  | detach id => exact h.removed (h.sound.removed_step rfl) (h.sound.detach id)
  | release id => exact h.removed (h.sound.removed_step rfl) (h.sound.release id)
  | discard id => exact h.removed (h.sound.removed_step rfl) (h.sound.discard id)

/-- Moves keep the ledger right. -/
theorem Keeps.run (h : ledger.Keeps config hub given) (moves : List HubMove) :
    (ledger.noteAll hub moves).Keeps config (hub.run moves).1
      fun id => given id ++ handed id (hub.run moves).2 := by
  -- what has been given so far is carried along, so that the balance is one of the whole run
  induction moves generalizing ledger hub given with
  | nil => simpa [noteAll, Hub.run] using h
  | cons move moves ih =>
      have hlater := ih (h.step move)
      simpa only [noteAll, Hub.run, handed_append, List.append_assoc] using hlater

/-- The ledger of the moves of a hub is right. -/
theorem keeps_ofMoves (config : HubConfig) (moves : List HubMove) :
    (ofMoves config moves).Keeps config ((Hub.ofConfig config).run moves).1
      fun id => handed id ((Hub.ofConfig config).run moves).2 :=
  (keeps_empty config).run moves

/-! ## Contiguity -/

/-- The kept reports and those that follow them are one stretch of the published reports. -/
theorem due_eq_stretch {room : Nat} {id : SubscriptionId} {tenure : Tenure}
    (htenure : ledger.tenure id = some tenure) (h : tenure.Fits room ledger) :
    ledger.due id = stretch ledger.published (tenure.joined - room) (ledger.last tenure) := by
  have hkept : tenure.kept = stretch ledger.published (tenure.joined - room) tenure.joined := by
    rw [h.kept_eq, rtake_take room (h.joined_le.trans h.last_le)]
  have hlive : ledger.live tenure
      = stretch ledger.published tenure.joined (ledger.last tenure) := rfl
  simp only [due, htenure]
  rw [hkept, hlive, stretch_append (Nat.sub_le _ _) h.joined_le h.last_le]

end Ledger

/-! ## What runs comes to its end -/

/-- The move may be made by a subscriber that takes a message: it removes a subscription or ends
the delivery. -/
def HubMove.isWithin : HubMove → Bool
  | .ingest _ => false
  | .attach => false
  | _ => true

/-- The move is the end of a delivery. -/
def HubMove.isEnd : HubMove → Bool
  | .finish _ => true
  | _ => false

namespace Hub

/-- A hub for which no delivery is left is idle. -/
theorem isBusy_of_callsLeft {hub : Hub} (h : hub.callsLeft = 0) : hub.isBusy = false := by
  cases hreplay : hub.replay with
  | some replay => simp [callsLeft, hreplay] at h
  | none =>
      cases hrun : hub.bus.running with
      | nil => exact hub.not_isBusy_iff.mpr ⟨hreplay, hrun⟩
      | cons publication outer => simp [callsLeft, hreplay, hrun] at h

/-- Going on with a replay leaves a delivery for each of its messages. -/
theorem callsLeft_replayOn {hub : Hub} (hrun : hub.bus.running = []) (accepted : Nat)
    (pending : List Message) : (hub.replayOn accepted pending).1.callsLeft = pending.length := by
  cases pending with
  | nil => simp [replayOn, callsLeft, Bus.subscribe, hrun]
  | cons message pending => simp [replayOn, callsLeft]

/-- **The end of a delivery leaves fewer of them.** -/
theorem Sound.callsLeft_finish {hub : Hub} (h : hub.Sound) (outcome : Outcome) :
    (hub.finish outcome).1.callsLeft ≤ hub.callsLeft - 1 := by
  cases hreplay : hub.replay with
  | some replay =>
      have hrun := h.replay_alone (by rw [hreplay]; rfl)
      have hleft := callsLeft_replayOn hrun (replay.accepted + outcome.count) replay.pending
      simp only [Hub.finish, hreplay, callsLeft, Nat.add_sub_cancel] at hleft ⊢
      exact Nat.le_of_eq hleft
  | none =>
      cases hrun : hub.bus.running with
      | nil => simp [Hub.finish, hreplay, moveBus, Bus.step, Bus.finish, hrun, callsLeft]
      | cons publication outer =>
          -- the publication is taken off the stack for the turn, which leaves no other one
          have houter : outer = [] := by simpa [hrun] using h.one_running
          subst houter
          rcases Bus.turn_cases { hub.bus with running := [] } publication.message
              (publication.accepted + outcome.count) publication.pending with
            ⟨-, heq⟩ | ⟨skipped, id, rest, hsplit, -, -, heq⟩
          · simp [Hub.finish, hreplay, moveBus, Bus.step, Bus.finish, hrun, callsLeft, heq]
          · have hlength : rest.length + 1 ≤ publication.pending.length := by
              rw [hsplit, List.length_append, List.length_cons]
              exact Nat.le_add_left _ _
            simp only [Hub.finish, hreplay, moveBus, Bus.step, Bus.finish, hrun, callsLeft, heq,
              Nat.add_sub_cancel]
            exact hlength

/-- A removal leaves as many deliveries as before. -/
theorem Removed.callsLeft {id : SubscriptionId} {hub : Hub} {moved : Hub × List HubEvent}
    (hr : Removed id hub moved) : moved.1.callsLeft = hub.callsLeft := by
  rw [Hub.callsLeft, Hub.callsLeft, hr.replay, hr.bus, Bus.unsubscribe_running]

/-- A move that a subscriber makes while it takes a message leaves fewer deliveries if it ends
one, and no more if it does not. -/
theorem Sound.callsLeft_step {hub : Hub} (h : hub.Sound) {move : HubMove}
    (hmove : move.isWithin = true) :
    (hub.step move).1.callsLeft ≤ hub.callsLeft - if move.isEnd then 1 else 0 := by
  cases move with
  | ingest report => cases hmove
  | attach => cases hmove
  | finish outcome => exact h.callsLeft_finish outcome
  | detach id => exact Nat.le_of_eq (removed_detach hub id).callsLeft
  | release id => exact Nat.le_of_eq (h.removed_release id).callsLeft
  | discard id => exact Nat.le_of_eq (h.removed_discard id).callsLeft

/-- Moves that subscribers make while they take messages leave fewer deliveries, one for each
that they end. -/
theorem Sound.callsLeft_run {hub : Hub} (h : hub.Sound) {moves : List HubMove}
    (hmoves : ∀ move ∈ moves, move.isWithin = true) :
    (hub.run moves).1.callsLeft ≤ hub.callsLeft - moves.countP HubMove.isEnd := by
  induction moves generalizing hub with
  | nil => exact Nat.le_refl _
  | cons move moves ih =>
      have hstep := h.callsLeft_step (hmoves move List.mem_cons_self)
      have hlater := ih (h.step move) fun other hother =>
        hmoves other (List.mem_cons_of_mem _ hother)
      rw [List.countP_cons]
      exact hlater.trans (by omega)

end Hub

/-! ## The contract -/

/-- **A subscriber gets a contiguous stretch of the published reports.**  At every point of a
run the hub keeps the last published reports, as many as there is room for.  What has been
handed to a subscription, with what the running replay or publication will still hand to it,
are the reports kept when it was attached and those published from then on until its removal.
The deliveries that are left end, whatever their outcomes and whomever the subscribers remove
meanwhile: after so many ends the hub is idle, and then all that is due has been handed over. -/
theorem handed_append_outstanding (config : HubConfig) (moves : List HubMove) :
    let hub := ((Hub.ofConfig config).run moves).1
    let events := ((Hub.ofConfig config).run moves).2
    let ledger := Ledger.ofMoves config moves
    hub.cached = ledger.published.rtake (min ledger.published.length config.cache) ∧
      (∀ id,
        handed id events ++ hub.outstanding id = (ledger.due id).map .newReport ∧
        (hub.isBusy = false → hub.outstanding id = []) ∧
        ∀ tenure, ledger.tenure id = some tenure →
          ledger.due id
            = (ledger.published.take (ledger.last tenure)).drop
              (tenure.joined - config.cache)) ∧
      ∀ later : List HubMove, (∀ move ∈ later, move.isWithin = true) →
        hub.callsLeft ≤ later.countP HubMove.isEnd →
        (hub.run later).1.isBusy = false ∧
          ∀ id, handed id (events ++ (hub.run later).2)
            = ((ledger.noteAll hub later).due id).map .newReport := by
  intro hub events ledger
  have h : ledger.Keeps config hub fun id => handed id events := Ledger.keeps_ofMoves config moves
  refine ⟨?_, fun id => ⟨h.balance id, ?_, ?_⟩, fun later hwithin hends => ?_⟩
  · rw [Cache.rtake_min]
    exact Hub.cached_of_history h.history
  · exact fun hidle => Hub.outstanding_idle hidle id
  · exact fun tenure htenure => Ledger.due_eq_stretch htenure (h.fits id tenure htenure)
  · have hleft := h.sound.callsLeft_run hwithin
    rw [Nat.sub_eq_zero_of_le hends, Nat.le_zero] at hleft
    have hidle := Hub.isBusy_of_callsLeft hleft
    refine ⟨hidle, fun id => ?_⟩
    have hbalance := (h.run later).balance id
    rw [Hub.outstanding_idle hidle, List.append_nil] at hbalance
    rw [handed_append, hbalance]

/-- With room for one report, three subscribers are attached after the second one was published,
which the first of them refuses.  While a third report is handed to the first subscriber, that
removes itself and the second one, and panics.  The second one is not due the third report and
does not get it, the first and the last one are and do. -/
theorem handed_of_removal_in_delivery :
    let two : Json := .string "two"
    let three : Json := .string "three"
    let moves : List HubMove := [.ingest (.string "one"), .ingest two, .attach,
      .finish (.refused .lagged), .attach, .finish .accepted, .attach, .finish .accepted,
      .ingest three]
    let later : List HubMove := [.detach 1, .release 2, .finish (.panicked none),
      .finish .accepted, .finish .accepted]
    let hub := ((Hub.ofConfig ⟨1, 1⟩).run moves).1
    let events := ((Hub.ofConfig ⟨1, 1⟩).run moves).2 ++ (hub.run later).2
    let ledger := (Ledger.ofMoves ⟨1, 1⟩ moves).noteAll hub later
    hub.callsLeft = 3 ∧ (hub.run later).1.isBusy = false ∧
      (∀ id, handed id events = (ledger.due id).map .newReport) ∧
      handed 1 events = [.newReport two, .newReport three] ∧
      handed 2 events = [.newReport two] ∧
      handed 3 events = [.newReport two, .newReport three] := by
  intro two three moves later hub events ledger
  obtain ⟨-, -, hlater⟩ := handed_append_outstanding ⟨1, 1⟩ moves
  obtain ⟨hidle, hhanded⟩ := hlater later (by decide) (by decide)
  exact ⟨rfl, hidle, hhanded, rfl, rfl, rfl⟩

end ReportRelay
