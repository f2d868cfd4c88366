/-
# Rehearsals of a server

A server with labelled viewers that connect to it over a network.  After every step the
streams run until they have nothing to do.  On a host without a route to itself nobody
reaches the server, and only its owner can publish.
-/
import ReportRelay.Network
import ReportRelay.Server.Stream

namespace ReportRelay

/-! ## Viewers -/

/-- What a viewer finds on its connection. -/
inductive ViewerItem where
  /-- A text frame. -/
  | frame (text : String)
  /-- The answer to a ping, with its payload. -/
  | pong (payload : String)
  /-- The end of the stream. -/
  | closed
  deriving DecidableEq, Repr

/-- A labelled viewer. -/
structure Viewer where
  /-- The label. -/
  label : String
  /-- The subscription of its stream. -/
  id : SubscriptionId
  /-- What has arrived and was not looked at. -/
  inbox : List ViewerItem
  /-- Whether it sees all frames of the connection, and not the text frames alone. -/
  raw : Bool

/-- A server with its viewers. -/
structure ServerRehearsal where
  /-- What can be reached. -/
  network : Network
  /-- The server. -/
  server : Server
  /-- The viewers. -/
  viewers : List Viewer
  /-- The reasons for which streams have ended and which were not asked for, oldest
  first. -/
  endings : List StreamReason

namespace ServerRehearsal

/-- A server without viewers. -/
def ofConfig (network : Network) (config : HubConfig) : ServerRehearsal :=
  ⟨network, .ofConfig config, [], []⟩

/-- The viewer with a label. -/
def viewer? (r : ServerRehearsal) (label : String) : Option Viewer :=
  r.viewers.find? fun viewer => viewer.label == label

/-- Puts an item into the inbox of the viewer of a subscription. -/
def post (r : ServerRehearsal) (id : SubscriptionId) (item : ViewerItem) : ServerRehearsal :=
  { r with
    viewers := r.viewers.map fun viewer =>
      if viewer.id = id then { viewer with inbox := viewer.inbox ++ [item] } else viewer }

/-- What an event brings to the viewers, and the end of a stream. -/
def witness (r : ServerRehearsal) : ServerEvent → ServerRehearsal
  | .wrote id frame => r.post id (.frame frame)
  | .ended id reason => { r.post id .closed with endings := r.endings ++ [reason] }
  | _ => r

/-- The response in an event. -/
def responseOf? : ServerEvent → Option Response
  | .responded response => some response
  | _ => none

/-- The number of accepted deliveries of a published message. -/
def acceptedOf? : ServerEvent → Option Nat
  | .relay (.hub (.ingested _ accepted)) => some accepted
  | _ => none

/-- Moves the server. -/
def move (r : ServerRehearsal) (m : ServerMove) : ServerRehearsal × List ServerEvent :=
  let (server, events) := r.server.step m
  (events.foldl witness { r with server := server }, events)

/-- The messages that the hub hands out are delivered, at most so many of them. -/
def deliverAll : Nat → ServerRehearsal → ServerRehearsal × List ServerEvent
  | 0, r => (r, [])
  | fuel + 1, r =>
    let (r, events) := r.move .deliver
    let (r, later) := deliverAll fuel r
    (r, events ++ later)

/-- Moves the server, with the deliveries that follow. -/
def moveOn (r : ServerRehearsal) (m : ServerMove) : ServerRehearsal × List ServerEvent :=
  let (r, events) := r.move m
  let (r, later) := deliverAll r.server.relay.hub.callsLeft r
  (r, events ++ later)

/-- What a stream does next if nothing comes between. -/
def nextMove (r : ServerRehearsal) (id : SubscriptionId) : ServerMove :=
  match r.server.phase? id with
  | some (.writing _) => .written id
  | some .leaving => .leave id
  | _ => .take id

/-- A stream goes on, so many times. -/
def drain (id : SubscriptionId) : Nat → ServerRehearsal → ServerRehearsal × List ServerEvent
  | 0, r => (r, [])
  | fuel + 1, r =>
    let (r, events) := r.move (r.nextMove id)
    let (r, later) := drain id fuel r
    (r, events ++ later)

/-- How many messages wait for a stream. -/
def waitingFor (r : ServerRehearsal) (id : SubscriptionId) : Nat :=
  ((r.server.relay.queue? id).map fun queue => queue.waiting.length).getD 0

/-- The streams of a list write what waits for them, and leave if they have ended. -/
def drainAll : List SubscriptionId → ServerRehearsal → ServerRehearsal × List ServerEvent
  | [], r => (r, [])
  | id :: ids, r =>
    let (r, events) := drain id (2 * r.waitingFor id + 2) r
    let (r, later) := drainAll ids r
    (r, events ++ later)

/-- The subscriptions of the streams. -/
def streamIds (r : ServerRehearsal) : List SubscriptionId := r.server.streams.map Stream.id

/-- Moves the server, and lets the streams run. -/
def perform (r : ServerRehearsal) (m : ServerMove) : ServerRehearsal × List ServerEvent :=
  let (r, events) := r.moveOn m
  let (r, later) := drainAll r.streamIds r
  (r, events ++ later)

/-- Takes so many of the reasons for which streams have ended, in the order of their
words. -/
def takeReasons (r : ServerRehearsal) (count : Nat) : ServerRehearsal × List String :=
  ({ r with endings := r.endings.drop count },
    ((r.endings.take count).map StreamReason.name).mergeSort fun a b => a ≤ b)

/-! ## Steps -/

/-- Posts a body; nothing is answered if the server is not reached. -/
def publish (r : ServerRehearsal) (target : String) (body : ByteArray) :
    ServerRehearsal × Option Response :=
  match r.network with
  | .unreachable _ => (r, none)
  | .loopback =>
    let (r, events) := r.perform (.request ⟨"POST", target, body⟩)
    (r, events.findSome? responseOf?)

/-- Opens a stream for a viewer, in place of an earlier one with its label. -/
def openStream (r : ServerRehearsal) (label target : String) (raw : Bool) :
    ServerRehearsal × Except ClientError Unit :=
  match r.network.connect (Route.ofTarget? target = some .stream && !r.server.stopping) with
  | .error cause => (r, .error cause)
  | .ok () =>
    let id := r.server.relay.hub.bus.nextId
    let others := r.viewers.filter fun viewer => viewer.label != label
    let r := { r with viewers := others ++ [Viewer.mk label id [] raw] }
    ((r.perform (.openStream target)).1, .ok ())

/-- Publishes reports one after another while no stream runs; counts for each the streams
that accepted it. -/
def burst (r : ServerRehearsal) (reports : List Json) : ServerRehearsal × List Nat :=
  let (r, counts) := reports.foldl (fun (r, counts) report =>
    let (r, events) := moveOn r (.ingest report)
    (r, ((events.findSome? acceptedOf?).getD 0) :: counts)) (r, [])
  ((drainAll r.streamIds r).1, counts.reverse)

/-- Takes so many items from the inbox of a viewer; the end of a stream stays there. -/
def receive (r : ServerRehearsal) (label : String) (times : Nat) :
    ServerRehearsal × List ViewerItem :=
  match r.viewer? label with
  | none => (r, [])
  | some viewer =>
    let inbox := viewer.inbox.drop times
    let kept := if viewer.inbox.contains .closed && inbox.isEmpty then [.closed] else inbox
    ({ r with
        viewers := r.viewers.map fun v => if v.label = label then { v with inbox := kept } else v },
      viewer.inbox.take times)

/-- A viewer says something, or pings with a payload, which is answered; tells whether there
is such a viewer. -/
def say (r : ServerRehearsal) (label : String) (ping : Option String) : ServerRehearsal × Bool :=
  match r.viewer? label with
  | none => (r, false)
  | some viewer =>
    let (r, _) := r.perform (.viewerSays viewer.id)
    match ping with
    | none => (r, true)
    | some payload => (r.post viewer.id (.pong payload), true)

/-- A viewer goes away, by closing the connection or without; gives the reason for which
its stream has ended, if there is such a viewer. -/
def leave (r : ServerRehearsal) (label : String) (closing : Bool) :
    ServerRehearsal × Option (List String) :=
  match r.viewer? label with
  | none => (r, none)
  | some viewer =>
    let (r, _) := r.perform (if closing then .viewerCloses viewer.id else .readFails viewer.id)
    let (r, reasons) := takeReasons
      { r with viewers := r.viewers.filter fun v => v.label != label } 1
    (r, some reasons)

/-- Shuts the server down, which ends all streams; gives the reasons. -/
def shutdown (r : ServerRehearsal) : ServerRehearsal × List String :=
  let (r, _) := r.move .shutdown
  let r := r.streamIds.foldl (fun r id => (move r (.takeShutdown id)).1) r
  let (r, _) := drainAll r.streamIds r
  r.takeReasons r.endings.length

end ServerRehearsal

end ReportRelay
