/-
# What a server owes to those who post and to those who listen

What is published is the documents in the bodies that are posted, in their order, if the body is
not too large; all else that is posted, and what viewers say, might as well not have happened.
The text frames written on a stream are those of the first reports that its subscription is due,
and a stream is registered as long as it runs, unless others remove its subscription
(`discipline_of_run`).
-/
import Mathlib.Data.String.Basic
import ReportRelay.Proofs.Hub.Delivery
import ReportRelay.Proofs.Message.Frame
import ReportRelay.Proofs.Server.Lives
import ReportRelay.Proofs.Server.Rejections

namespace ReportRelay

/-! ## What is posted -/

/-- A body that is not too large is published if it holds a document. -/
theorem report?_of_posted (posted : Request)
    (hroute : Route.ofTarget? posted.target = some .publish) (hmethod : posted.method = "POST") :
    (ServerMove.request posted).report?
      = if greatestBody < posted.body.size then none else bodyDocument? posted.body := by
  rw [ServerMove.report?, Request.outcome, hroute]
  simp only [hmethod, ne_eq, not_true_eq_false, if_false]
  split
  · rfl
  · cases bodyDocument? posted.body <;> rfl

/-- The body that holds a string is read. -/
theorem bodyDocument?_string (text : String) :
    bodyDocument? (Json.string text).render.toUTF8 = some (.string text) := by
  rw [bodyDocument?_toUTF8, Json.parse?_render (.string text) (Json.floatsReadBack_string text)]
  rfl

namespace Server

variable {server : Server} {id : SubscriptionId} {cut : List SubscriptionId}

/-! ## The ledger of a server -/

/-- The ledger of the hub of a server that makes moves. -/
def ledger (config : HubConfig) (moves : List ServerMove) : Ledger :=
  Ledger.ofMoves config ((Relay.ofConfig config).hubMoves ((ofConfig config).relayMoves moves))

/-- The ledger notes as published what the server publishes. -/
theorem published_ledger (config : HubConfig) (moves : List ServerMove) :
    (ledger config moves).published = (ofConfig config).published moves := by
  have hnoted := Relay.published_noteAll .empty (ofConfig config).relay
    ((ofConfig config).relayMoves moves)
  rw [taken_relayMoves] at hnoted
  exact hnoted

/-- The ledger is right about the hub of the server and what it has handed over. -/
theorem keeps_ledger (config : HubConfig) (moves : List ServerMove) :
    (ledger config moves).Keeps config ((ofConfig config).run moves).1.relay.hub
      fun id => handed id (Relay.hubEvents (relayEvents ((ofConfig config).run moves).2)) := by
  have hserver := run_relay (ofConfig config) moves
  have hrelay := Relay.run_hub (Relay.ofConfig config) ((ofConfig config).relayMoves moves)
  have hkeeps := Ledger.keeps_ofMoves config
    ((Relay.ofConfig config).hubMoves ((ofConfig config).relayMoves moves))
  rw [show Hub.ofConfig config = (Relay.ofConfig config).hub from rfl, ← hrelay,
    show Relay.ofConfig config = (ofConfig config).relay from rfl, ← hserver] at hkeeps
  exact hkeeps

/-- What a stream receives are the first of the reports that its subscription is due. -/
theorem takenOn_due (config : HubConfig) (moves : List ServerMove) (id : SubscriptionId) :
    takenOn id ((ofConfig config).run moves).2
      <+: ((ledger config moves).due id).map fun report => (Message.newReport report).frame := by
  have hserves : ((ofConfig config).run moves).1.relay.Serves
      (relayEvents ((ofConfig config).run moves).2) := by
    have hrun := (Relay.serves_ofConfig config).run ((ofConfig config).relayMoves moves)
    rw [show Relay.ofConfig config = (ofConfig config).relay from rfl, ← run_relay] at hrun
    exact hrun
  have hgot : Relay.got id (relayEvents ((ofConfig config).run moves).2)
      <+: ((ledger config moves).due id).map .newReport := by
    rw [← (keeps_ledger config moves).balance id]
    cases hqueue : ((ofConfig config).run moves).1.relay.queue? id with
    | none =>
        rw [Relay.got, hserves.others id hqueue]
        exact List.nil_prefix
    | some queue =>
        exact (hserves.queue id queue hqueue).got_handed.trans (List.prefix_append _ _)
  rw [takenOn_eq, ← Function.comp_def Message.frame, ← List.map_map]
  exact hgot.map _

/-! ## The discipline -/

/-- The life of a stream in a run from the beginning. -/
theorem lives_of_run (config : HubConfig) (moves : List ServerMove) (id : SubscriptionId) :
    Lives id ((ofConfig config).run moves).1 (tale id ((ofConfig config).run moves).2) :=
  (lives_ofConfig config id).run (roll_ofConfig config) moves

/-- A stream runs once it has been opened, until it ends. -/
theorem mem_running_of_run (config : HubConfig) (moves : List ServerMove) (id : SubscriptionId) :
    let server := ((ofConfig config).run moves).1
    let events := ((ofConfig config).run moves).2
    id ∈ server.running ↔ .opened id ∈ events ∧ ∀ reason, .ended id reason ∉ events := by
  intro server events
  have hroll := (roll_ofConfig config).run moves
  have hopened : isAbout id (.opened id) = true := beq_self_eq_true id
  have hended : ∀ reason, isAbout id (.ended id reason) = true := fun _ => beq_self_eq_true id
  rw [(lives_of_run config moves id).mem_running_iff hroll, mem_tale hopened]
  simp only [mem_tale (hended _)]
  rfl

/-- A move that ends a stream shows so, and removes its registration. -/
theorem Roll.ends (h : Roll cut server) {move : ServerMove} {reason : StreamReason}
    (hending : server.ending? move = some (id, reason)) :
    .ended id reason ∈ (server.step move).2 ∧
      (server.step move).1.relay.hub.bus.registered = server.relay.hub.bus.registered.erase id := by
  have hstep : server.step move = server.finish id reason := by
    rw [Server.step, hending]
  rw [hstep]
  constructor
  · exact List.mem_append_right _ (List.mem_singleton.mpr rfl)
  · exact h.sound.registered_removes (show HubMove.removes? (.release id) = some id from rfl)

/-- **The discipline of a server**, at every point of every run.

A body that is posted to a route for reports is published if it holds a document and is not too
large.  The hub keeps the last of the published reports.  The run is the same, but for the
responses, without the requests that publish nothing and the words of viewers, and with
publications by the owner of the hub in place of the other requests.

The frames written on a stream are those of the first reports that it is due: those kept when it
was attached, and those published while it was registered.

The registered subscriptions are those of the streams that have been opened and have not ended,
each once, but for those that others have cut off; and a stream that ends loses its registration
in the same step. -/
theorem discipline_of_run (config : HubConfig) (moves : List ServerMove) :
    let server := ((ofConfig config).run moves).1
    let events := ((ofConfig config).run moves).2
    let published := (ofConfig config).published moves
    let essential := (ofConfig config).run (moves.filterMap ServerMove.essence?)
    let cut := (ofConfig config).cutOff moves
    (∀ posted : Request, Route.ofTarget? posted.target = some .publish → posted.method = "POST" →
        (ServerMove.request posted).report?
          = if greatestBody < posted.body.size then none else bodyDocument? posted.body) ∧
      server.relay.hub.cached = published.rtake config.cache ∧
      (server.relay = essential.1.relay ∧ server.streams = essential.1.streams ∧
        unanswered events = essential.2) ∧
      (ledger config moves).published = published ∧
      (∀ id tenure, (ledger config moves).tenure id = some tenure →
        tenure.kept = (published.take tenure.joined).rtake config.cache) ∧
      (∀ id, framesOn id events
        <+: ((ledger config moves).due id).map fun report => (Message.newReport report).frame) ∧
      server.relay.hub.bus.registered = server.running.filter (· ∉ cut) ∧
      server.relay.hub.subscriberCount = (server.running.filter (· ∉ cut)).length ∧
      server.running.Nodup ∧
      (∀ id, id ∈ server.running
        ↔ .opened id ∈ events ∧ ∀ reason, .ended id reason ∉ events) ∧
      ∀ move id reason, server.ending? move = some (id, reason) →
        .ended id reason ∈ (server.step move).2 ∧
          (server.step move).1.relay.hub.bus.registered
            = server.relay.hub.bus.registered.erase id := by
  intro server events published essential cut
  have hroll : Roll cut server := (roll_ofConfig config).run moves
  have hkeeps := keeps_ledger config moves
  have hpublished : (ledger config moves).published = published := published_ledger config moves
  have hmatches : Matches (server, events) essential := matches_run (ofConfig config) moves
  have hstate : server.unasked = essential.1 := hmatches.state
  refine ⟨report?_of_posted, ?_, ⟨?_, ?_, ?_⟩,
    hpublished, fun id tenure htenure => ?_, fun id => ?_, hroll.registered,
    congrArg List.length hroll.registered, hroll.nodup_running,
    mem_running_of_run config moves, fun move id reason hending => hroll.ends hending⟩
  · rw [← hpublished]
    exact Hub.cached_of_history hkeeps.history
  · rw [← hstate]
    rfl
  · rw [← hstate]
    rfl
  · exact hmatches.events
  · rw [← hpublished]
    exact (hkeeps.fits id tenure htenure).kept_eq
  · have htaken := (lives_of_run config moves id).framesOn_takenOn
    rw [framesOn_tale, takenOn_tale] at htaken
    exact htaken.trans (takenOn_due config moves id)

/-- A viewer who has got a report that was posted before it came is registered until it closes the
connection. -/
theorem discipline_of_posted_stream :
    let report : Json := .string "one"
    let posted : Request := ⟨"POST", "/submit", report.render.toUTF8⟩
    let moves : List ServerMove := [.request posted, .openStream "/stream", .deliver, .take 1,
      .viewerSays 1, .written 1]
    let server := ((ofConfig {}).run moves).1
    let events := ((ofConfig {}).run moves).2
    (ServerMove.request posted).report? = some report ∧
      framesOn 1 events = [(Message.newReport report).frame] ∧
      server.relay.hub.bus.registered = [1] ∧
      .ended 1 .closedByViewer ∈ (server.step (.viewerCloses 1)).2 ∧
      (server.step (.viewerCloses 1)).1.relay.hub.bus.registered = [] := by
  intro report posted moves
  have hsubmit : Route.ofTarget? "/submit" = some .publish := by decide
  have hstream : Route.ofTarget? "/stream" = some .stream := by decide
  have hsize : ¬greatestBody < posted.body.size := by decide
  have hbody : bodyDocument? posted.body = some report := bodyDocument?_string "one"
  have houtcome : posted.outcome = (some report, .success) := by
    rw [Request.outcome, hsubmit]
    simp only [hbody, if_neg hsize]
    rfl
  -- with the routes and the body read, the run is evaluated
  have hpost : ∀ server : Server, server.step (.request posted)
      = server.begin (.hub (.ingest report)) (some (.response .success)) := by
    intro server
    show server.answer posted = _
    rw [answer, houtcome]
  have hopen : ∀ server : Server, server.step (.openStream "/stream")
      = server.begin (.attachViewer server.relay.hub.config.queue)
        (some (.stream server.relay.hub.bus.nextId)) := by
    intro server
    show server.openStream "/stream" = _
    rw [openStream, if_pos hstream]
  have hframes : framesOn 1 ((ofConfig {}).run moves).2 = [(Message.newReport report).frame] := by
    simp only [moves, run_cons, hpost, hopen, report]
    decide +kernel
  have hregistered : ((ofConfig {}).run moves).1.relay.hub.bus.registered = [1] := by
    simp only [moves, run_cons, hpost, hopen, report]
    decide +kernel
  have hwaiting : ((ofConfig {}).run moves).1.isWaiting 1 = true := by
    simp only [moves, run_cons, hpost, hopen, report]
    decide +kernel
  have hdiscipline := discipline_of_run {} moves
  generalize (ofConfig {}).run moves = ran at *
  obtain ⟨hposted, -, -, -, -, -, -, -, -, -, hends⟩ := hdiscipline
  obtain ⟨hended, herased⟩ := hends (.viewerCloses 1) 1 .closedByViewer (if_pos hwaiting)
  refine ⟨?_, hframes, hregistered, hended, ?_⟩
  · rw [hposted posted hsubmit rfl, if_neg hsize, hbody]
  · rw [herased, hregistered]
    rfl

/-! ## Bodies that are too large -/

/-- A text has at least as many bytes as characters. -/
theorem length_le_size (chars : List Char) : chars.length ≤ (String.ofList chars).toUTF8.size := by
  rw [show (String.ofList chars).toUTF8.size = (String.ofList chars).utf8ByteSize
    from String.size_toByteArray, String.utf8ByteSize_ofList]
  induction chars with
  | nil => exact Nat.le_refl 0
  | cons c chars ih =>
      rw [String.utf8Len_cons, List.length_cons]
      exact Nat.add_le_add ih c.utf8Size_pos

/-- The body that holds a string of so many letters is larger than that. -/
theorem lt_size_of_letters (n : Nat) :
    n < (Json.string (String.ofList (List.replicate n 'a'))).render.toUTF8.size := by
  have hescape : (List.replicate n 'a').flatMap Json.escape = List.replicate n 'a' := by
    rw [List.flatMap_replicate, show Json.escape 'a' = ['a'] from rfl,
      List.flatten_replicate_singleton]
  refine Nat.lt_of_lt_of_le ?_ (length_le_size _)
  rw [Json.print, Json.quoted, String.toList_ofList, hescape, List.length_append,
    List.length_cons, List.length_replicate]
  omega

/-- A string of too many letters is a document, but posting it publishes nothing. -/
theorem cached_of_letters {n : Nat} (hlarge : greatestBody ≤ n) :
    let document : Json := .string (String.ofList (List.replicate n 'a'))
    let posted : Request := ⟨"POST", "/submit", document.render.toUTF8⟩
    bodyDocument? posted.body = some document ∧
      ((ofConfig {}).run [.request posted]).1.relay.hub.cached = [] := by
  intro document posted
  have hroute : Route.ofTarget? "/submit" = some .publish := by decide
  have hsize : greatestBody < posted.body.size :=
    Nat.lt_of_le_of_lt hlarge (lt_size_of_letters n)
  have hreport : (ServerMove.request posted).report? = none :=
    (report?_of_posted posted hroute rfl).trans (if_pos hsize)
  have hessence : (ServerMove.request posted).essence? = none :=
    Option.map_eq_none_iff.mpr hreport
  refine ⟨bodyDocument?_string _, ?_⟩
  rw [run_cons, (step_of_essence_none _ hessence).1]
  rfl

/-- A body of more bytes than are taken is refused even if it holds a document, which the hub would
keep if it were published. -/
theorem cached_of_large_body :
    let document : Json := .string (String.ofList (List.replicate greatestBody 'a'))
    let posted : Request := ⟨"POST", "/submit", document.render.toUTF8⟩
    bodyDocument? posted.body = some document ∧
      ((ofConfig {}).run [.request posted]).1.relay.hub.cached = [] ∧
      [document].rtake ({} : HubConfig).cache ≠ [] := by
  have hkept : ∀ document : Json, [document].rtake ({} : HubConfig).cache ≠ [] :=
    fun document heq => by cases heq
  obtain ⟨hread, hcached⟩ := cached_of_letters (Nat.le_refl greatestBody)
  exact ⟨hread, hcached, hkept _⟩

end Server

end ReportRelay
