/-
# How far a subscriber is behind the hub

A subscriber is handed the reports that were kept when it was attached, and then every report
that the hub takes.  So the number of messages that have been handed to it, with those that are
still outstanding, is the number of both (`Paced`), as long as it is registered or takes a
message.

An attachment is a replay that is begun once and gone through delivery by delivery;
`AttachStep` says all that a move can do to it.
-/
import ReportRelay.Proofs.Hub.Calls

namespace ReportRelay

namespace Hub

/-! ## Who is handed messages -/

/-- A message is outstanding only for a subscription that is present. -/
theorem isPresent_of_outstanding {hub : Hub} {id : SubscriptionId}
    (h : hub.outstanding id ≠ []) : hub.IsPresent id := by
  rw [outstanding] at h
  cases hreplay : hub.replay with
  | some replay =>
      rw [hreplay] at h
      have hid : id = hub.bus.nextId := by
        by_contra hne
        exact h (if_neg hne)
      exact Or.inr ⟨by rw [hreplay]; rfl, hid⟩
  | none =>
      simp only [hreplay, Bus.outstanding] at h
      cases hrun : hub.bus.running with
      | nil =>
          rw [hrun] at h
          exact absurd rfl h
      | cons publication outer =>
          simp only [hrun, ne_eq, ite_eq_right_iff, Classical.not_imp] at h
          exact Or.inl h.1.2

/-- Nothing is outstanding for a subscriber while it takes a new report: its turn comes once. -/
theorem Sound.outstanding_of_inHand {hub : Hub} (h : hub.Sound) {id : SubscriptionId}
    (hjoin : ¬hub.IsJoining id) (hhand : hub.inHand id ≠ []) : hub.outstanding id = [] := by
  cases hreplay : hub.replay with
  | some replay =>
      refine absurd ?_ hjoin
      rw [inHand, calling?, hreplay] at hhand
      have hid : hub.bus.nextId = id := by
        by_contra hne
        exact hhand (if_neg hne)
      exact ⟨by rw [hreplay]; rfl, hid.symm⟩
  | none =>
      rw [outstanding, hreplay]
      cases hrun : hub.bus.running with
      | nil => exact Bus.outstanding_idle hrun id
      | cons publication outer =>
          have hid : publication.current = id := by
            by_contra hne
            refine hhand ?_
            rw [inHand, calling?, hreplay]
            simp [Bus.calling?, hrun, hne]
          -- a publication goes through its subscriptions in the order of their numbers
          have hmem : publication ∈ hub.bus.running := by simp [hrun]
          have hasc := List.pairwise_cons.mp (h.bus.snapshot_ascending publication hmem)
          simp only [Bus.outstanding, hrun]
          refine if_neg fun hpending => Nat.lt_irrefl id ?_
          have hlt := hasc.1 id hpending.1
          rwa [hid] at hlt

/-- The subscription is present, or takes a message although it has been removed. -/
def IsServed (hub : Hub) (id : SubscriptionId) : Prop := hub.IsPresent id ∨ hub.inHand id ≠ []

/-- The report that a hub takes in a move; a busy hub takes none. -/
def taken? (hub : Hub) : HubMove → Option Json
  | .ingest report => if hub.isBusy then none else some report
  | _ => none

/-! ## The pace of a hub -/

/-- The hub keeps pace for a subscription for which it had `kept` messages at its attachment:
since then it has taken `taken` reports, and handed it `given` messages. -/
structure Paced (hub : Hub) (id : SubscriptionId) (kept taken given : Nat) : Prop where
  /-- The subscription has been or is being attached. -/
  known : hub.IsKnown id
  /-- No report is taken while the subscription is being attached. -/
  joining : hub.IsJoining id → taken = 0
  /-- What was handed over, and what is still to be handed over, is what there was to hand
  over. -/
  balance : hub.IsServed id → given + (hub.outstanding id).length = kept + taken

variable {hub : Hub} {id : SubscriptionId} {kept taken given : Nat}

/-- A hub that attaches a subscriber keeps pace for it. -/
theorem Sound.paced_attach (h : hub.Sound) (hidle : hub.isBusy = false) :
    (hub.step .attach).1.Paced hub.bus.nextId hub.history.items.length 0
      (handed hub.bus.nextId (hub.step .attach).2).length := by
  have hrun := (hub.not_isBusy_iff.mp hidle).2
  have hstep : hub.step .attach = hub.replayOn 0 hub.history.items := by
    simp [Hub.step, hidle]
  rw [hstep]
  refine ⟨(isKnown_replayOn h _ _ _).mpr (Or.inr rfl), fun _ => rfl, fun _ => ?_⟩
  rw [← List.length_append, handed_replayOn hrun, if_pos rfl]
  rfl

/-- A hub keeps pace while it takes a report. -/
theorem Paced.ingest (h : hub.Paced id kept taken given) (hsound : hub.Sound)
    (hidle : hub.isBusy = false) (report : Json) :
    (hub.ingest report).1.Paced id kept (taken + 1)
      (given + (handed id (hub.ingest report).2).length) := by
  have hstep : hub.step (.ingest report) = hub.ingest report := by simp [Hub.step, hidle]
  have hreplay : (hub.ingest report).1.replay = none := (hub.not_isBusy_iff.mp hidle).1
  have hnot : ¬(hub.ingest report).1.IsJoining id := by
    rw [IsJoining, hreplay]
    simp
  have hhanded := hsound.handed_ingest hidle report id
  refine ⟨?_, fun hjoin => absurd hjoin hnot, fun hserved => ?_⟩
  · rw [← hstep]
    exact hsound.isKnown_step _ h.known
  · -- whoever is served now was registered, and nothing was outstanding for it
    have hreg : id ∈ hub.bus.registered := by
      rcases hserved with hpresent | hhand
      · simpa [Hub.ingest, moveBus, Bus.step] using hpresent.resolve_right hnot
      · by_contra hreg
        rw [if_neg hreg, List.append_eq_nil_iff] at hhanded
        have hinHand := hsound.inHand_step (.ingest report) id
        rw [inHandLeft_of_ne (fun _ heq => by cases heq), inHand_of_none (calling?_idle hidle),
          List.nil_append, hstep] at hinHand
        exact hhand (hinHand.symm.trans hhanded.1)
    have hbalance := h.balance (Or.inl (Or.inl hreg))
    have hlength := congrArg List.length hhanded
    rw [outstanding_idle hidle, List.length_nil] at hbalance
    rw [if_pos hreg, List.length_append, List.length_singleton] at hlength
    omega

/-- The subscription that is attached by a replay is the next one. -/
theorem eq_nextId_of_replayOn {accepted : Nat} {pending : List Message}
    (h : (hub.replayOn accepted pending).1.IsJoining id) : id = hub.bus.nextId := by
  cases pending with
  | nil => exact absurd h.1 (by simp [replayOn])
  | cons message pending => exact h.2

/-- A hub keeps pace while it attaches another subscriber. -/
theorem Paced.attach (h : hub.Paced id kept taken given) (hsound : hub.Sound)
    (hidle : hub.isBusy = false) :
    (hub.replayOn 0 hub.history.items).1.Paced id kept taken
      (given + (handed id (hub.replayOn 0 hub.history.items).2).length) := by
  have hrun := (hub.not_isBusy_iff.mp hidle).2
  have hne : id ≠ hub.bus.nextId := fun heq => not_isKnown_nextId hidle (heq ▸ h.known)
  have hhanded := handed_replayOn hrun 0 hub.history.items id
  rw [if_neg hne, List.append_eq_nil_iff] at hhanded
  have hpresent : (hub.replayOn 0 hub.history.items).1.IsPresent id → id ∈ hub.bus.registered :=
    fun hpresent => ((isPresent_replayOn _ _ _).mp hpresent).resolve_right hne
  refine ⟨(isKnown_replayOn hsound _ _ _).mpr (Or.inl ?_), fun hjoin => ?_, fun hserved => ?_⟩
  · exact h.known.resolve_right (not_isJoining hidle id)
  · exact absurd (eq_nextId_of_replayOn hjoin) hne
  · have hreg : id ∈ hub.bus.registered := by
      refine hpresent (hserved.resolve_right fun hhand => hhand ?_)
      rw [← handed_replayOn_eq_inHand hrun]
      exact hhanded.1
    rw [hhanded.1, hhanded.2, List.length_nil, Nat.add_zero]
    have hbalance := h.balance (Or.inl (Or.inl hreg))
    rwa [outstanding_idle hidle, List.length_nil, Nat.add_zero] at hbalance

/-- The end of a delivery neither begins nor ends an attachment but its own, and registers
nobody else. -/
theorem isPresent_finish (hub : Hub) (outcome : Outcome) (id : SubscriptionId) :
    (hub.finish outcome).1.IsPresent id ↔ hub.IsPresent id := by
  cases hreplay : hub.replay with
  | some replay =>
      simp only [Hub.finish, hreplay]
      rw [isPresent_replayOn]
      simp [IsPresent, IsJoining, hreplay]
  | none => simp [Hub.finish, hreplay, moveBus, Bus.step, IsPresent, IsJoining]

/-- A subscription that is being attached after the end of a delivery was so before. -/
theorem isJoining_of_finish {outcome : Outcome} (h : (hub.finish outcome).1.IsJoining id) :
    hub.IsJoining id := by
  cases hreplay : hub.replay with
  | some replay =>
      simp only [Hub.finish, hreplay] at h
      exact ⟨by rw [hreplay]; rfl, eq_nextId_of_replayOn h⟩
  | none =>
      simp [Hub.finish, hreplay, moveBus, Bus.step, IsJoining] at h

/-- A hub keeps pace while a delivery ends. -/
theorem Paced.finish (h : hub.Paced id kept taken given) (hsound : hub.Sound)
    (outcome : Outcome) :
    (hub.finish outcome).1.Paced id kept taken
      (given + (handed id (hub.finish outcome).2).length) := by
  have hhanded := hsound.handed_finish outcome id
  refine ⟨hsound.isKnown_step (.finish outcome) h.known,
    fun hjoin => h.joining (isJoining_of_finish hjoin), fun hserved => ?_⟩
  -- whoever takes the next message was promised it, which only those present are
  have hpresent : hub.IsPresent id := by
    rcases hserved with hpresent | hhand
    · exact (isPresent_finish hub outcome id).mp hpresent
    · refine isPresent_of_outstanding fun hnone => hhand ?_
      rw [hnone, List.append_eq_nil_iff] at hhanded
      rw [← hsound.handed_finish_eq_inHand]
      exact hhanded.1
  have hbalance := h.balance (Or.inl hpresent)
  have hlength := congrArg List.length hhanded
  rw [List.length_append] at hlength
  omega

/-- A hub keeps pace while a subscription is removed. -/
theorem Paced.removed (h : hub.Paced id kept taken given) (hsound : hub.Sound)
    (move : HubMove) {removed : SubscriptionId} (hmove : move.removes? = some removed) :
    (hub.step move).1.Paced id kept taken
      (given + (handed id (hub.step move).2).length) := by
  have hr := hsound.removed_step hmove
  have hjoining : (hub.step move).1.IsJoining id ↔ hub.IsJoining id := by
    rw [IsJoining, hr.replay, hr.bus, Bus.unsubscribe_nextId]
    rfl
  have hinHand : (hub.step move).1.inHand id = hub.inHand id := by
    have hne : ∀ outcome, move ≠ .finish outcome := by
      rintro outcome rfl
      cases hmove
    rw [← hsound.inHand_step, inHandLeft_of_ne hne, hr.handed, List.append_nil]
  have hreg : id ∈ (hub.step move).1.bus.registered
      ↔ id ≠ removed ∧ id ∈ hub.bus.registered := by
    rw [hr.bus, hsound.bus.mem_unsubscribe]
  refine ⟨hsound.isKnown_step _ h.known, fun hjoin => h.joining (hjoining.mp hjoin),
    fun hserved => ?_⟩
  have hbefore : hub.IsServed id := by
    rw [IsServed, IsPresent, hjoining, hinHand, hreg] at hserved
    exact hserved.imp_left (Or.imp_left And.right)
  rw [hr.handed, List.length_nil, Nat.add_zero, hsound.outstanding_removed hr]
  by_cases hid : id = removed ∧ removed ∈ hub.bus.registered
  · -- it takes its last message, after which none was promised
    obtain ⟨rfl, hmem⟩ := hid
    have hnot : ¬hub.IsJoining id :=
      fun hjoin => hsound.bus.nextId_notMem (hjoin.2 ▸ hmem)
    have hhand : hub.inHand id ≠ [] := by
      rw [IsServed, IsPresent, hjoining, hinHand, hreg] at hserved
      exact hserved.resolve_left fun hpresent => hpresent.elim (fun h' => h'.1 rfl) hnot
    rw [if_pos ⟨rfl, hmem⟩, ← h.balance hbefore, hsound.outstanding_of_inHand hnot hhand]
  · rw [if_neg hid]
    exact h.balance hbefore

/-- **A hub keeps pace for its subscribers in every move.** -/
theorem Paced.step (h : hub.Paced id kept taken given) (hsound : hub.Sound) (move : HubMove) :
    (hub.step move).1.Paced id kept (taken + (hub.taken? move).toList.length)
      (given + (handed id (hub.step move).2).length) := by
  cases move with
  | ingest report =>
      by_cases hbusy : hub.isBusy
      · simpa [Hub.step, taken?, hbusy] using h
      · rw [Bool.not_eq_true] at hbusy
        simp only [Hub.step, taken?, hbusy, Bool.false_eq_true, if_false]
        exact h.ingest hsound hbusy report
  | attach =>
      by_cases hbusy : hub.isBusy
      · simpa [Hub.step, taken?, hbusy] using h
      · rw [Bool.not_eq_true] at hbusy
        simp only [Hub.step, hbusy, Bool.false_eq_true, if_false]
        exact h.attach hsound hbusy
  | detach other => exact h.removed hsound (.detach other) rfl
  | release other => exact h.removed hsound (.release other) rfl
  | discard other => exact h.removed hsound (.discard other) rfl
  | finish outcome => exact h.finish hsound outcome

/-- While a subscription takes a message that is not replayed, as many have been handed to it
as were kept and taken. -/
theorem Paced.given_of_inHand (h : hub.Paced id kept taken given) (hsound : hub.Sound)
    (hjoin : ¬hub.IsJoining id) (hhand : hub.inHand id ≠ []) : given = kept + taken := by
  have hbalance := h.balance (Or.inr hhand)
  rwa [hsound.outstanding_of_inHand hjoin hhand, List.length_nil, Nat.add_zero] at hbalance

/-! ## Attachments -/

/-- What a move may do to the attachment of a subscription that is known. -/
inductive AttachStep (hub : Hub) (id : SubscriptionId) (move : HubMove)
    (moved : Hub × List HubEvent) : Prop
  /-- The subscription is not being attached. -/
  | apart (hbefore : ¬hub.IsJoining id) (hafter : ¬moved.1.IsJoining id)
      (hevents : ∀ accepted, .attached id accepted ∉ moved.2)
  /-- The replay goes on waiting for the same delivery. -/
  | wait (hbefore : hub.IsJoining id) (hafter : moved.1.replay = hub.replay)
      (hnext : moved.1.bus.nextId = hub.bus.nextId) (hmove : ∀ outcome, move ≠ .finish outcome)
      (hevents : ∀ accepted, .attached id accepted ∉ moved.2)
  /-- A replayed delivery ends, and the next one starts. -/
  | next {replay : Replay} {outcome : Outcome} {message : Message} {pending : List Message}
      (hid : id = hub.bus.nextId) (hmove : move = .finish outcome)
      (hbefore : hub.replay = some replay) (hpending : replay.pending = message :: pending)
      (hafter : moved.1.replay = some ⟨message, pending, replay.accepted + outcome.count⟩)
      (hnext : moved.1.bus.nextId = hub.bus.nextId)
      (hevents : ∀ accepted, .attached id accepted ∉ moved.2)
  /-- The last replayed delivery ends, and the attachment with it. -/
  | done {replay : Replay} {outcome : Outcome}
      (hid : id = hub.bus.nextId) (hmove : move = .finish outcome)
      (hbefore : hub.replay = some replay) (hpending : replay.pending = [])
      (hafter : moved.1.replay = none)
      (hevents : ∀ accepted,
        .attached id accepted ∈ moved.2 ↔ accepted = replay.accepted + outcome.count)

/-- A turn attaches nobody. -/
theorem attached_notMem_turn (bus : Bus) (message : Message) (accepted : Nat)
    (pending : List SubscriptionId) (id : SubscriptionId) (shown : Nat) :
    HubEvent.attached id shown ∉ (bus.turn message accepted pending).2.map HubEvent.ofBus := by
  rcases Bus.turn_cases bus message accepted pending with ⟨-, heq⟩ | ⟨_, _, _, -, -, -, heq⟩ <;>
    simp [heq, HubEvent.ofBus]

/-- The end of a live delivery attaches nobody. -/
theorem attached_notMem_finish (hreplay : hub.replay = none) (outcome : Outcome)
    (id : SubscriptionId) (shown : Nat) :
    HubEvent.attached id shown ∉ (hub.finish outcome).2 := by
  simp only [Hub.finish, hreplay, moveBus, Bus.step, Bus.finish]
  split
  · simp
  · simpa [HubEvent.ofBus] using attached_notMem_turn _ _ _ _ id shown

/-- The end of a delivery goes on with the attachment that it belongs to, if it belongs to one. -/
theorem attachStep_finish (id : SubscriptionId) (outcome : Outcome) :
    AttachStep hub id (.finish outcome) (hub.finish outcome) := by
  cases hreplay : hub.replay with
  | none =>
      refine .apart ?_ ?_ (attached_notMem_finish hreplay outcome id)
      · simp [IsJoining, hreplay]
      · exact fun hjoin => by simpa [IsJoining, hreplay] using isJoining_of_finish hjoin
  | some replay =>
      by_cases hid : id = hub.bus.nextId
      · subst hid
        cases hpending : replay.pending with
        | nil =>
            refine .done rfl rfl hreplay hpending ?_ ?_
            · simp [Hub.finish, hreplay, hpending, Hub.replayOn]
            · simp [Hub.finish, hreplay, hpending, Hub.replayOn]
        | cons message pending =>
            refine .next rfl rfl hreplay hpending ?_ ?_ ?_
            · simp [Hub.finish, hreplay, hpending, Hub.replayOn]
            · simp [Hub.finish, hreplay, hpending, Hub.replayOn]
            · simp [Hub.finish, hreplay, hpending, Hub.replayOn]
      · have hjoin : ¬hub.IsJoining id := fun hjoin => hid hjoin.2
        refine .apart hjoin (fun hafter => hjoin (isJoining_of_finish hafter)) ?_
        simp only [Hub.finish, hreplay]
        cases hpending : replay.pending with
        | nil => simp [Hub.replayOn, hid]
        | cons message pending => simp [Hub.replayOn]

/-- An attachment that starts is not that of another subscription. -/
theorem attachStep_attach (hidle : hub.isBusy = false) (hne : id ≠ hub.bus.nextId) :
    AttachStep hub id .attach (hub.step .attach) := by
  have hstep : hub.step .attach = hub.replayOn 0 hub.history.items := by
    simp [Hub.step, hidle]
  rw [hstep]
  refine .apart (not_isJoining hidle id)
    (fun hjoin => hne (eq_nextId_of_replayOn hjoin)) fun accepted => ?_
  cases hub.history.items with
  | nil => simp [Hub.replayOn, hne]
  | cons message pending => simp [Hub.replayOn]

/-- **What a move does to an attachment.** -/
theorem Sound.attachStep (h : hub.Sound) (hknown : hub.IsKnown id) (move : HubMove) :
    AttachStep hub id move (hub.step move) := by
  have hstay : (∀ outcome, move ≠ .finish outcome) →
      (hub.step move).1.replay = hub.replay →
      (hub.step move).1.bus.nextId = hub.bus.nextId →
      (∀ accepted, .attached id accepted ∉ (hub.step move).2) →
      AttachStep hub id move (hub.step move) := by
    intro hmove hreplay hnext hevents
    by_cases hjoin : hub.IsJoining id
    · exact .wait hjoin hreplay hnext hmove hevents
    · refine .apart hjoin ?_ hevents
      rw [IsJoining, hreplay, hnext]
      exact hjoin
  have hremoved : ∀ other, move.removes? = some other →
      AttachStep hub id move (hub.step move) := by
    intro other hother
    have hr := h.removed_step hother
    refine hstay ?_ hr.replay (by rw [hr.bus, Bus.unsubscribe_nextId]) fun accepted hmem => ?_
    · rintro outcome rfl
      cases hother
    · obtain ⟨removed, heq⟩ := hr.events _ hmem
      cases heq
  cases move with
  | ingest report =>
      by_cases hbusy : hub.isBusy
      · exact hstay (by simp) (by simp [Hub.step, hbusy]) (by simp [Hub.step, hbusy])
          (by simp [Hub.step, hbusy])
      · have hstep : hub.step (.ingest report) = hub.ingest report := by simp [Hub.step, hbusy]
        rw [hstep] at hstay ⊢
        exact hstay (by simp) rfl (by simp [Hub.ingest, moveBus, Bus.step])
          (attached_notMem_turn _ _ _ _ id)
  | attach =>
      by_cases hbusy : hub.isBusy
      · exact hstay (by simp) (by simp [Hub.step, hbusy]) (by simp [Hub.step, hbusy])
          (by simp [Hub.step, hbusy])
      · rw [Bool.not_eq_true] at hbusy
        -- the next subscription of an idle hub is not known
        exact attachStep_attach hbusy fun heq => not_isKnown_nextId hbusy (heq ▸ hknown)
  | detach other => exact hremoved other rfl
  | release other => exact hremoved other rfl
  | discard other => exact hremoved other rfl
  | finish outcome => exact attachStep_finish id outcome

/-- The hub attaches a subscription whose deliveries are accepted, or has done so: the replay
that runs counts those that have ended, and the result is the number of kept messages. -/
structure Attaches (hub : Hub) (id : SubscriptionId) (kept : Nat) (events : List HubEvent) :
    Prop where
  /-- The replay goes through all kept messages. -/
  replay : ∀ replay, hub.replay = some replay → id = hub.bus.nextId →
    replay.accepted + replay.pending.length + 1 = kept
  /-- No other result is given. -/
  result : ∀ accepted, .attached id accepted ∈ events → accepted = kept
  /-- Once the attachment has ended, its result has been given. -/
  returned : ¬hub.IsJoining id → .attached id kept ∈ events

/-- An attachment starts with all kept messages. -/
theorem attaches_attach (hidle : hub.isBusy = false) :
    (hub.step .attach).1.Attaches hub.bus.nextId hub.history.items.length
      (hub.step .attach).2 := by
  have hstep : hub.step .attach = hub.replayOn 0 hub.history.items := by
    simp [Hub.step, hidle]
  rw [hstep]
  cases hub.history.items with
  | nil =>
      constructor
      · intro replay hreplay
        cases hreplay
      · simp [replayOn]
      · simp [replayOn]
  | cons message pending =>
      constructor
      · rintro replay ⟨⟩ -
        rw [Nat.zero_add, List.length_cons]
      · simp [replayOn]
      · exact fun hnot => absurd ⟨rfl, rfl⟩ hnot

/-- An attachment goes on as long as its deliveries are accepted. -/
theorem Attaches.step {events : List HubEvent} (h : hub.Attaches id kept events)
    (hsound : hub.Sound) (hknown : hub.IsKnown id) {move : HubMove}
    (haccept : ∀ outcome, move = .finish outcome → hub.IsJoining id → outcome = .accepted) :
    (hub.step move).1.Attaches id kept (events ++ (hub.step move).2) := by
  have hold : (∀ accepted, .attached id accepted ∉ (hub.step move).2) →
      ∀ accepted, .attached id accepted ∈ events ++ (hub.step move).2 → accepted = kept := by
    intro hevents accepted hmem
    exact h.result accepted ((List.mem_append.mp hmem).resolve_right (hevents accepted))
  cases hsound.attachStep hknown move with
  | apart hbefore hafter hevents =>
      refine ⟨fun replay hreplay hid => ?_, hold hevents, fun _ => ?_⟩
      · exact absurd ⟨by rw [hreplay]; rfl, hid⟩ hafter
      · exact List.mem_append_left _ (h.returned hbefore)
  | wait hbefore hafter hnext hmove hevents =>
      refine ⟨fun replay hreplay _ => h.replay replay (hafter ▸ hreplay) hbefore.2,
        hold hevents, fun hnot => absurd ⟨?_, ?_⟩ hnot⟩
      · rw [hafter]
        exact hbefore.1
      · rw [hnext]
        exact hbefore.2
  | @next replay outcome message pending hid hmove hbefore hpending hafter hnext hevents =>
      have hjoin : hub.IsJoining id := ⟨by rw [hbefore]; rfl, hid⟩
      refine ⟨fun after hreplay _ => ?_, hold hevents, fun hnot => absurd ⟨?_, ?_⟩ hnot⟩
      · -- one more is accepted, and one less is left
        rw [hafter, Option.some.injEq] at hreplay
        subst hreplay
        have hkept := h.replay replay hbefore hid
        rw [hpending, List.length_cons] at hkept
        rw [haccept outcome hmove hjoin]
        show replay.accepted + 1 + pending.length + 1 = kept
        omega
      · rw [hafter]
        rfl
      · rw [hnext]
        exact hid
  | @done replay outcome hid hmove hbefore hpending hafter hevents =>
      have hjoin : hub.IsJoining id := ⟨by rw [hbefore]; rfl, hid⟩
      have hkept := h.replay replay hbefore hid
      have hresult : replay.accepted + outcome.count = kept := by
        rw [haccept outcome hmove hjoin]
        rw [hpending] at hkept
        exact hkept
      refine ⟨fun after hreplay => ?_, fun accepted hmem => ?_, fun _ => ?_⟩
      · rw [hafter] at hreplay
        cases hreplay
      · rcases List.mem_append.mp hmem with hmem | hmem
        · exact h.result accepted hmem
        · exact ((hevents accepted).mp hmem).trans hresult
      · exact List.mem_append_right _ ((hevents kept).mpr hresult.symm)

end Hub

end ReportRelay
