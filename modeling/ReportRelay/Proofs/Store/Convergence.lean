/-
# A store converges across reconnections

A connection replays the last of the reports that were published before it, and goes on with
those that are published next.  So it delivers one stretch of the published reports.  When a
client comes back before a report that it has not received is dropped from the cache, the next
stretch starts within the last one or right after it, and the reports that come again leave the
store as it is.  After each connection the store holds what it would hold if the client had
received every report once, without any reconnection (`store_converges`).

What a client reads of the messages that a hub hands to a subscription is what a connection
delivers (`take_handed_eq_messages`).  So the store converges over the runs of a hub as well
(`store_of_hub_run`).
-/
import Mathlib.Data.List.Chain
import ReportRelay.Proofs.Client.Scripts
import ReportRelay.Proofs.Hub.Delivery
import ReportRelay.Proofs.Store.LastArrivals

namespace ReportRelay

/-! ## Connections -/

/-- A connection of a client to a hub: how many reports had been published when it was
attached, and how many of the next ones it has received. -/
structure Connection where
  /-- The number of reports published before. -/
  attached : Nat
  /-- The number of reports received after the replay. -/
  live : Nat

namespace Connection

/-- The messages that a connection delivers: those that the hub keeps when it is attached,
and those that are published next. -/
def messages (config : HubConfig) (published : List Json) (connection : Connection) :
    List Message :=
  (((published.take connection.attached).map Message.newReport).foldl Cache.push
      (Hub.ofConfig config).history).items
    ++ ((published.drop connection.attached).take connection.live).map .newReport

/-- The frames that a connection delivers. -/
def frames (config : HubConfig) (published : List Json) (connection : Connection) :
    List String :=
  (connection.messages config published).map Message.frame

/-- The place of the first report that is replayed. -/
def first (config : HubConfig) (connection : Connection) : Nat :=
  connection.attached - config.cache

/-- The place after the last report that is received; zero if there is none. -/
def last (connection : Connection) : Nat := connection.attached + connection.live

/-- A connection that follows on another is attached later, and finds in the cache all
reports that have not been received, if any report has. -/
def Meets (config : HubConfig) (connection next : Connection) : Prop :=
  connection.last ≤ next.attached ∧ (0 < connection.last → next.first config ≤ connection.last)

/-- A connection delivers a stretch of the published reports. -/
theorem messages_eq_stretch (config : HubConfig) {published : List Json}
    {connection : Connection} (hfits : connection.last ≤ published.length) :
    connection.messages config published
      = (stretch published (connection.first config) connection.last).map .newReport := by
  have hattached : connection.attached ≤ connection.last := Nat.le_add_right _ _
  have hlive : (published.drop connection.attached).take connection.live
      = stretch published connection.attached connection.last := by
    rw [stretch, last, List.drop_take, Nat.add_sub_cancel_left]
  rw [messages, Hub.ofConfig, Cache.ofCapacity_cache, Cache.foldl_push, Cache.rtake_map,
    rtake_take config.cache (hattached.trans hfits), hlive, ← List.map_append]
  exact congrArg _ (stretch_append (Nat.sub_le _ _) hattached hfits)

end Connection

namespace Ledger

variable {config : HubConfig} {ledger : Ledger} {id : SubscriptionId} {tenure : Tenure}

/-- What a subscriber is due at a hub is what a connection delivers that was attached with
it. -/
theorem due_eq_messages (htenure : ledger.tenure id = some tenure)
    (h : tenure.Fits config.cache ledger) :
    (ledger.due id).map .newReport
      = Connection.messages config ledger.published
          ⟨tenure.joined, ledger.last tenure - tenure.joined⟩ := by
  have hlast : Connection.last ⟨tenure.joined, ledger.last tenure - tenure.joined⟩
      = ledger.last tenure := Nat.add_sub_cancel' h.joined_le
  rw [Connection.messages_eq_stretch config (by rw [hlast]; exact h.last_le), hlast,
    due_eq_stretch htenure h]
  rfl

/-- A subscriber is due the reports of its replay and those that come after it. -/
theorem length_due (htenure : ledger.tenure id = some tenure)
    (h : tenure.Fits config.cache ledger) :
    (ledger.due id).length = tenure.kept.length + (ledger.last tenure - tenure.joined) := by
  simp only [due, htenure, live, List.length_append, List.length_drop,
    List.length_take_of_le h.last_le]

/-- The connection of a client that reads so many messages of a subscription. -/
def connection (ledger : Ledger) (id : SubscriptionId) (count : Nat) : Connection :=
  match ledger.tenure id with
  | none => ⟨0, 0⟩
  | some tenure => ⟨tenure.joined, count - tenure.kept.length⟩

/-- Such a connection receives no more than has been published. -/
theorem last_connection_le (htenure : ledger.tenure id = some tenure)
    (h : tenure.Fits config.cache ledger) {count : Nat}
    (hcount : count ≤ (ledger.due id).length) :
    (ledger.connection id count).last ≤ ledger.published.length := by
  have hjoined := h.joined_le
  have hlast := h.last_le
  rw [length_due htenure h] at hcount
  simp only [connection, htenure, Connection.last]
  omega

/-- The first messages that a subscriber is due, with those of its replay among them, are what
such a connection delivers. -/
theorem take_due_eq_messages (htenure : ledger.tenure id = some tenure)
    (h : tenure.Fits config.cache ledger) {count : Nat} (hkept : tenure.kept.length ≤ count)
    (hcount : count ≤ (ledger.due id).length) :
    ((ledger.due id).map .newReport).take count
      = Connection.messages config ledger.published (ledger.connection id count) := by
  have hreplay : (((ledger.published.take tenure.joined).map Message.newReport).foldl Cache.push
      (Hub.ofConfig config).history).items = tenure.kept.map .newReport := by
    rw [Hub.ofConfig, Cache.ofCapacity_cache, Cache.foldl_push, Cache.rtake_map, h.kept_eq]
  rw [length_due htenure h] at hcount
  have hrest : min (count - tenure.kept.length) (ledger.last tenure - tenure.joined)
      = count - tenure.kept.length := by omega
  rw [due_eq_messages htenure h]
  simp only [Connection.messages, connection, htenure, hreplay]
  rw [List.take_append, List.length_map, List.take_of_length_le (by rwa [List.length_map]),
    ← List.map_take, List.take_take, hrest]

end Ledger

/-- **What a client reads of what a hub hands to a subscription is what a connection delivers**,
if it reads the whole replay. -/
theorem take_handed_eq_messages (config : HubConfig) (moves : List HubMove)
    {id : SubscriptionId} {tenure : Tenure} {count : Nat}
    (htenure : (Ledger.ofMoves config moves).tenure id = some tenure)
    (hkept : tenure.kept.length ≤ count)
    (hcount : count ≤ (handed id ((Hub.ofConfig config).run moves).2).length) :
    let ledger := Ledger.ofMoves config moves
    (handed id ((Hub.ofConfig config).run moves).2).take count
        = Connection.messages config ledger.published (ledger.connection id count) ∧
      (ledger.connection id count).last ≤ ledger.published.length := by
  intro ledger
  have h : ledger.Keeps config ((Hub.ofConfig config).run moves).1
      fun id => handed id ((Hub.ofConfig config).run moves).2 := Ledger.keeps_ofMoves config moves
  have hfits := h.fits id tenure htenure
  have hbalance := h.balance id
  have hdue : count ≤ (ledger.due id).length := by
    have hlength := congrArg List.length hbalance
    rw [List.length_append, List.length_map] at hlength
    omega
  refine ⟨?_, Ledger.last_connection_le htenure hfits hdue⟩
  rw [← Ledger.take_due_eq_messages htenure hfits hkept hdue, ← hbalance,
    List.take_append_of_le_length hcount]

/-! ## Courses of connections -/

/-- Connections of a client one after another: each receives reports that are published, and
each meets the one before it. -/
structure IsCourse (config : HubConfig) (published : List Json) (course : List Connection) :
    Prop where
  fits : ∀ connection ∈ course, connection.last ≤ published.length
  meets : course.IsChain (Connection.Meets config)

/-- The place of the first report that is replayed in a course. -/
def firstReplayed (config : HubConfig) : List Connection → Nat
  | [] => 0
  | connection :: course =>
    if connection.last = 0 then firstReplayed config course else connection.first config

/-- The place after the last report that is received in a course. -/
def lastReceived : List Connection → Nat
  | [] => 0
  | [connection] => connection.last
  | _ :: next :: course => lastReceived (next :: course)

/-- The reports that messages bring to a store. -/
def storedOf (messages : List Message) : List GroupedReport :=
  (messages.map Message.frame).filterMap frameReport?

@[simp] theorem storedOf_append (messages more : List Message) :
    storedOf (messages ++ more) = storedOf messages ++ storedOf more := by
  simp [storedOf]

/-- The reports that a stretch of the published reports brings to a store. -/
def storedIn (published : List Json) (first last : Nat) : List GroupedReport :=
  storedOf ((stretch published first last).map .newReport)

/-- Two stretches of which one goes on where the other ends bring what their union brings. -/
theorem storedIn_append {published : List Json} {first middle last : Nat}
    (hfirst : first ≤ middle) (hmiddle : middle ≤ last) (hlast : last ≤ published.length) :
    storedIn published first middle ++ storedIn published middle last
      = storedIn published first last := by
  rw [storedIn, storedIn, ← storedOf_append, ← List.map_append,
    stretch_append hfirst hmiddle hlast, storedIn]

variable {config : HubConfig} {published : List Json}

/-- A stretch that starts within another, or right after it, continues it, as far as the last
arrivals are concerned. -/
theorem lastArrivals_overlap {start first middle last : Nat} (hstart : start ≤ first)
    (hfirst : first ≤ middle) (hmiddle : middle ≤ last) (hlast : last ≤ published.length) :
    lastArrivals (storedIn published start middle ++ storedIn published first last)
      = lastArrivals (storedIn published start last) := by
  have hmid : middle ≤ published.length := hmiddle.trans hlast
  rw [← storedIn_append hstart hfirst hmid, ← storedIn_append hfirst hmiddle hlast,
    lastArrivals_again, storedIn_append hstart hfirst hmid,
    storedIn_append (hstart.trans hfirst) hmiddle hlast]

/-- When reports have been received, the connections that follow continue them. -/
theorem lastArrivals_of_received {connection : Connection} {course : List Connection}
    (h : IsCourse config published (connection :: course)) (hreceived : 0 < connection.last)
    {start : Nat} (hstart : start ≤ connection.first config) {arrived : List GroupedReport}
    (harrived : lastArrivals arrived
      = lastArrivals (storedIn published start connection.last)) :
    lastArrivals (arrived ++ storedOf (course.flatMap (Connection.messages config published)))
      = lastArrivals (storedIn published start (lastReceived (connection :: course))) := by
  -- the invariant: the arrivals so far count as one stretch from the start to the last report
  induction course generalizing connection arrived with
  | nil =>
      rw [List.flatMap_nil]
      simpa [storedOf, lastReceived] using harrived
  | cons next course ih =>
      obtain ⟨⟨hlater, hmeets⟩, hrest⟩ := List.isChain_cons_cons.mp h.meets
      have hfits : next.last ≤ published.length := h.fits next (by simp)
      have hattached : connection.attached ≤ connection.last := Nat.le_add_right _ _
      have hnextAttached : next.attached ≤ next.last := Nat.le_add_right _ _
      have hgrows : connection.last ≤ next.last := by omega
      have hfirst : connection.first config ≤ next.first config := by
        unfold Connection.first
        omega
      have hnext : IsCourse config published (next :: course) :=
        ⟨fun other hother => h.fits other (List.mem_cons_of_mem _ hother), hrest⟩
      have hone : lastArrivals (arrived ++ storedOf (next.messages config published))
          = lastArrivals (storedIn published start next.last) := by
        rw [lastArrivals_append_congr harrived, Connection.messages_eq_stretch config hfits]
        exact lastArrivals_overlap (hstart.trans hfirst) (hmeets hreceived) hgrows hfits
      rw [List.flatMap_cons, storedOf_append, ← List.append_assoc]
      exact ih hnext (hreceived.trans_le hgrows) (hstart.trans hfirst) hone

/-- **The reports of a course count as one stretch**, from the first one replayed to the last
one received. -/
theorem lastArrivals_course {course : List Connection} (h : IsCourse config published course) :
    lastArrivals (storedOf (course.flatMap (Connection.messages config published)))
      = lastArrivals
          (storedIn published (firstReplayed config course) (lastReceived course)) := by
  induction course with
  | nil => simp [storedOf, storedIn, lastReceived]
  | cons connection course ih =>
      have hfits : connection.last ≤ published.length := h.fits connection List.mem_cons_self
      have hmessages := Connection.messages_eq_stretch config hfits
      rw [List.flatMap_cons, storedOf_append, firstReplayed]
      by_cases hnone : connection.last = 0
      · -- nothing has been received so far, and the course starts with the next connection
        have hcourse : IsCourse config published course :=
          ⟨fun other hother => h.fits other (List.mem_cons_of_mem _ hother), h.meets.tail⟩
        have hempty : storedOf (connection.messages config published) = [] := by
          rw [hmessages, hnone, stretch_zero]
          rfl
        have hlast : lastReceived (connection :: course) = lastReceived course := by
          cases course with
          | nil => exact hnone
          | cons next course => rfl
        rw [if_pos hnone, hempty, List.nil_append, hlast]
        exact ih hcourse
      · rw [if_neg hnone]
        refine lastArrivals_of_received h (Nat.pos_of_ne_zero hnone) (Nat.le_refl _) ?_
        rw [hmessages]
        rfl

/-! ## Convergence -/

/-- A client whose connections deliver a course has the last arrivals of one stretch in its
store. -/
theorem Client.reports_of_course {course : List Connection}
    (h : IsCourse config published course) {delay : Nat} {moves : List ClientMove}
    (hread : (Client.sessions (Client.events (.ofDelay delay) moves)).2
      = course.map (Connection.frames config published)) :
    (Client.storeOf (Client.events (.ofDelay delay) moves)).reports
      = lastArrivals
          (storedIn published (firstReplayed config course) (lastReceived course)) := by
  have hframes : (course.map (Connection.frames config published)).flatten.filterMap frameReport?
      = storedOf (course.flatMap (Connection.messages config published)) := by
    rw [storedOf, List.map_flatMap, List.flatMap]
    rfl
  rw [Client.storeOf_run, hread, hframes, reports_foldl_add, lastArrivals_course h]

/-- A client that reads one stretch from one connection has its last arrivals in its store. -/
theorem Client.reports_of_stretch {first last : Nat} {delay : Nat} {moves : List ClientMove}
    (hread : (Client.sessions (Client.events (.ofDelay delay) moves)).2
      = [((stretch published first last).map Message.newReport).map Message.frame]) :
    (Client.storeOf (Client.events (.ofDelay delay) moves)).reports
      = lastArrivals (storedIn published first last) := by
  rw [Client.storeOf_run, hread, List.flatten_singleton, reports_foldl_add]
  rfl

/-- **A store converges across reconnections.**  A client whose connections deliver a course
ends with the reports in its store that another client has which reads, from one connection,
every report once from the first one that was replayed to the last one that was received.  It
is so after each connection, as the moves up to its end are a run of their own. -/
theorem store_converges {course : List Connection} (h : IsCourse config published course)
    {delay : Nat} {moves : List ClientMove}
    (hread : (Client.sessions (Client.events (.ofDelay delay) moves)).2
      = course.map (Connection.frames config published))
    {delayOnce : Nat} {once : List ClientMove}
    (honce : (Client.sessions (Client.events (.ofDelay delayOnce) once)).2
      = [((stretch published (firstReplayed config course) (lastReceived course)).map
          Message.newReport).map Message.frame]) :
    (Client.storeOf (Client.events (.ofDelay delay) moves)).reports
      = (Client.storeOf (Client.events (.ofDelay delayOnce) once)).reports := by
  rw [Client.reports_of_course h hread, Client.reports_of_stretch honce]

/-- From a hub that keeps two reports, a client that comes back gets the last one that it has
received again, and one that cannot be grouped; a report comes with two contents. -/
theorem store_converges_after_reconnection :
    let config : HubConfig := ⟨2, 1⟩
    let published : List Json := [.object [("id", .string "a")], .object [("id", .string "b")],
      .object [("id", .string "a"), ("run", .string "second")], .null,
      .object [("id", .string "c")]]
    let course : List Connection := [⟨1, 2⟩, ⟨4, 1⟩]
    IsCourse config published course ∧ ∃ moves once,
      (Client.sessions (Client.events (.ofDelay 5) moves)).2
        = course.map (Connection.frames config published) ∧
      (Client.sessions (Client.events (.ofDelay 0) once)).2
        = [(published.map Message.newReport).map Message.frame] ∧
      (Client.storeOf (Client.events (.ofDelay 5) moves)).reports
        = (Client.storeOf (Client.events (.ofDelay 0) once)).reports := by
  intro config published course
  have hcourse : IsCourse config published course :=
    ⟨by decide, List.IsChain.cons_cons ⟨by decide, by decide⟩ (.singleton _)⟩
  obtain ⟨moves, hmoves⟩ := Client.exists_sessions 5
    (course.map (Connection.frames config published))
  obtain ⟨once, honce⟩ := Client.exists_sessions 0
    [(published.map Message.newReport).map Message.frame]
  have hread := congrArg Prod.snd hmoves
  have hreadOnce := congrArg Prod.snd honce
  exact ⟨hcourse, moves, once, hread, hreadOnce, store_converges hcourse hread hreadOnce⟩

/-- **A store converges over what a hub hands out.**  A client reads what a hub hands to some
subscriptions, one after another: of each the whole replay and so many messages in all.  If each
subscription meets the one before it, the client ends with the reports in its store that another
client has which reads every report once. -/
theorem store_of_hub_run {config : HubConfig} {hubMoves : List HubMove}
    {ids : List SubscriptionId} {count : SubscriptionId → Nat}
    (hreads : ∀ id ∈ ids, ∃ tenure, (Ledger.ofMoves config hubMoves).tenure id = some tenure ∧
      tenure.kept.length ≤ count id ∧
      count id ≤ (handed id ((Hub.ofConfig config).run hubMoves).2).length)
    (hmeets : (ids.map fun id => (Ledger.ofMoves config hubMoves).connection id (count id)).IsChain
      (Connection.Meets config))
    {delay : Nat} {moves : List ClientMove}
    (hread : (Client.sessions (Client.events (.ofDelay delay) moves)).2
      = ids.map fun id =>
          ((handed id ((Hub.ofConfig config).run hubMoves).2).take (count id)).map Message.frame)
    {delayOnce : Nat} {once : List ClientMove}
    (honce :
      let ledger := Ledger.ofMoves config hubMoves
      let course := ids.map fun id => ledger.connection id (count id)
      (Client.sessions (Client.events (.ofDelay delayOnce) once)).2
        = [((stretch ledger.published (firstReplayed config course) (lastReceived course)).map
            Message.newReport).map Message.frame]) :
    (Client.storeOf (Client.events (.ofDelay delay) moves)).reports
      = (Client.storeOf (Client.events (.ofDelay delayOnce) once)).reports := by
  have hcourse : IsCourse config (Ledger.ofMoves config hubMoves).published
      (ids.map fun id => (Ledger.ofMoves config hubMoves).connection id (count id)) := by
    refine ⟨fun connection hconnection => ?_, hmeets⟩
    obtain ⟨id, hid, rfl⟩ := List.mem_map.mp hconnection
    obtain ⟨tenure, htenure, hkept, hcount⟩ := hreads id hid
    exact (take_handed_eq_messages config hubMoves htenure hkept hcount).2
  have hframes : (ids.map fun id =>
        ((handed id ((Hub.ofConfig config).run hubMoves).2).take (count id)).map Message.frame)
      = (ids.map fun id => (Ledger.ofMoves config hubMoves).connection id (count id)).map
          (Connection.frames config (Ledger.ofMoves config hubMoves).published) := by
    rw [List.map_map]
    refine List.map_congr_left fun id hid => ?_
    obtain ⟨tenure, htenure, hkept, hcount⟩ := hreads id hid
    rw [(take_handed_eq_messages config hubMoves htenure hkept hcount).1]
    rfl
  rw [Client.reports_of_course hcourse (hread.trans hframes), Client.reports_of_stretch honce]

/-- A client reads the only report, is removed, and reads it again when it comes back. -/
example :
    let config : HubConfig := ⟨1, 1⟩
    let hubMoves : List HubMove := [.attach, .ingest (.object [("id", .string "a")]),
      .finish .accepted, .detach 1, .attach, .finish .accepted]
    let read := fun id => ((handed id ((Hub.ofConfig config).run hubMoves).2).take 1).map
      Message.frame
    ∃ moves once,
      (Client.sessions (Client.events (.ofDelay 5) moves)).2 = [read 1, read 2] ∧
      (Client.sessions (Client.events (.ofDelay 5) once)).2
        = [((Ledger.ofMoves config hubMoves).published.map Message.newReport).map Message.frame] ∧
      (Client.storeOf (Client.events (.ofDelay 5) moves)).reports
        = (Client.storeOf (Client.events (.ofDelay 5) once)).reports := by
  intro config hubMoves read
  obtain ⟨moves, hmoves⟩ := Client.exists_sessions 5 [read 1, read 2]
  obtain ⟨once, honce⟩ := Client.exists_sessions 5
    [((Ledger.ofMoves config hubMoves).published.map Message.newReport).map Message.frame]
  have hread := congrArg Prod.snd hmoves
  have hreadOnce := congrArg Prod.snd honce
  have hreads : ∀ id ∈ [1, 2], ∃ tenure,
      (Ledger.ofMoves config hubMoves).tenure id = some tenure ∧ tenure.kept.length ≤ 1 ∧
        1 ≤ (handed id ((Hub.ofConfig config).run hubMoves).2).length := by
    intro id hid
    rcases List.mem_pair.mp hid with rfl | rfl
    · exact ⟨⟨[], 0, some 1⟩, rfl, by decide, by decide⟩
    · exact ⟨⟨[.object [("id", .string "a")]], 1, none⟩, rfl, by decide, by decide⟩
  have hmeets : ([1, 2].map fun id => (Ledger.ofMoves config hubMoves).connection id 1).IsChain
      (Connection.Meets config) := List.IsChain.cons_cons ⟨by decide, by decide⟩ (.singleton _)
  exact ⟨moves, once, hread, hreadOnce, store_of_hub_run hreads hmeets hread hreadOnce⟩

end ReportRelay
