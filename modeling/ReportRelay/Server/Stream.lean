/-
# The server

The server publishes what is posted to it and serves streams.  A stream is a viewer of the
relay whose messages are written to a connection, replayed ones first.

The server is driven by moves as the relay is, so anything may happen between two deliveries of
one publication and while a frame is written.  Publishing and attaching wait for the hub: a
request that comes while the hub is busy is taken when it is idle, and what it brings, a response
or a stream, is there when the deliveries are done.

A stream waits for three things at once: a message from its queue, something from its
viewer, and the shutdown of the server.  While it writes a frame it waits for nothing else.  It
ends for one of six reasons, and whatever the reason its subscription is removed; its queue is
given up when the connection is.  What a viewer says has no effect, except for closing
the connection.
-/
import ReportRelay.Relay
import ReportRelay.Server.Error
import ReportRelay.Server.Route

namespace ReportRelay

/-! ## State -/

/-- Why a stream has ended. -/
inductive StreamReason where
  /-- Its queue has overflowed. -/
  | lagged
  /-- Its subscription was removed by others. -/
  | detached
  /-- A frame could not be written. -/
  | writeFailed
  /-- The viewer has closed the connection. -/
  | closedByViewer
  /-- The connection could not be read. -/
  | readFailed
  /-- The server was shut down. -/
  | shutdown
  deriving DecidableEq, Repr

/-- The words for a reason. -/
def StreamReason.name : StreamReason → String
  | lagged => "lagged"
  | detached => "detached"
  | writeFailed => "write failed"
  | closedByViewer => "closed by viewer"
  | readFailed => "read failed"
  | shutdown => "shutdown"

/-- What a stream does. -/
inductive StreamPhase where
  /-- It waits for its queue, its viewer and the shutdown. -/
  | waiting
  /-- It writes the frame of a message. -/
  | writing (message : Message)
  /-- It has ended, and is to give up its queue. -/
  | leaving
  deriving Repr

/-- A stream. -/
structure Stream where
  /-- Its subscription. -/
  id : SubscriptionId
  /-- What it does. -/
  phase : StreamPhase
  deriving Repr

/-- What is there once the hub is done with its deliveries. -/
inductive Upcoming where
  /-- The response to a request that publishes a report. -/
  | response (response : Response)
  /-- A stream whose viewer is being attached. -/
  | stream (id : SubscriptionId)

/-- The state of a server. -/
structure Server where
  /-- The hub and the queues of the viewers. -/
  relay : Relay
  /-- The streams that have not given up their queues. -/
  streams : List Stream
  /-- What waits for the hub. -/
  upcoming : Option Upcoming
  /-- Whether the server has been shut down. -/
  stopping : Bool

/-- A server without streams. -/
def Server.ofConfig (config : HubConfig) : Server := ⟨.ofConfig config, [], none, false⟩

/-! ## Moves and events -/

/-- What happens to a server, or which of the things that are ready a stream takes. -/
inductive ServerMove where
  /-- A request that does not ask for a stream is taken.  While the hub is busy, one with a report
  is not taken yet. -/
  | request (request : Request)
  /-- A report that the owner of the hub publishes. -/
  | ingest (report : Json)
  /-- The request of a viewer for a stream is taken.  While the hub is busy, it is not taken yet. -/
  | openStream (target : String)
  /-- The message that the hub hands to a stream is delivered to its queue. -/
  | deliver
  /-- A stream takes what its queue gives. -/
  | take (id : SubscriptionId)
  /-- A stream has written its frame. -/
  | written (id : SubscriptionId)
  /-- A stream cannot write its frame. -/
  | writeFails (id : SubscriptionId)
  /-- A stream reads a frame from its viewer that does not close the connection. -/
  | viewerSays (id : SubscriptionId)
  /-- A stream finds that its viewer has closed the connection. -/
  | viewerCloses (id : SubscriptionId)
  /-- A stream cannot read from its connection. -/
  | readFails (id : SubscriptionId)
  /-- The server is shut down. -/
  | shutdown
  /-- A stream takes the shutdown. -/
  | takeShutdown (id : SubscriptionId)
  /-- A stream that has ended gives up its queue. -/
  | leave (id : SubscriptionId)
  /-- A subscription is removed by others. -/
  | detach (id : SubscriptionId)

/-- What can be seen of a server. -/
inductive ServerEvent where
  /-- A request has been answered. -/
  | responded (response : Response)
  /-- A stream has been opened. -/
  | opened (id : SubscriptionId)
  /-- There is no stream under the path. -/
  | turnedAway
  /-- A text frame has been written on a stream. -/
  | wrote (id : SubscriptionId) (frame : String)
  /-- A stream has ended. -/
  | ended (id : SubscriptionId) (reason : StreamReason)
  /-- An event of the relay. -/
  | relay (event : RelayEvent)

namespace Server

/-- A move of the relay of a server. -/
def moveRelay (server : Server) (move : RelayMove) : Server × List ServerEvent :=
  let (relay, events) := server.relay.step move
  ({ server with relay := relay }, events.map ServerEvent.relay)

/-! ### What waits for the hub -/

/-- What was to come is there, if the hub is done. -/
def conclude (server : Server) : Server × List ServerEvent :=
  if server.relay.hub.isBusy then (server, [])
  else
    match server.upcoming with
    | none => (server, [])
    | some (.response response) => ({ server with upcoming := none }, [.responded response])
    | some (.stream id) =>
      ({ server with upcoming := none, streams := server.streams ++ [⟨id, .waiting⟩] },
        [.opened id])

/-- A move of the relay after which the hub may be done. -/
def moveHub (server : Server) (move : RelayMove) : Server × List ServerEvent :=
  let (server, events) := server.moveRelay move
  let (server, later) := server.conclude
  (server, events ++ later)

/-- Lets an idle hub begin a publication or a replay, and says what is to come of it. -/
def begin (server : Server) (move : RelayMove) (upcoming : Option Upcoming) :
    Server × List ServerEvent :=
  if server.relay.hub.isBusy then (server, [])
  else moveHub { server with upcoming := upcoming } move

/-- Answers a request, and publishes the report in its body if there is one. -/
def answer (server : Server) (request : Request) : Server × List ServerEvent :=
  match request.outcome with
  | (some report, response) => server.begin (.hub (.ingest report)) (some (.response response))
  | (none, response) => (server, [.responded response])

/-- Opens a stream: attaches a viewer whose queue holds a whole replay. -/
def openStream (server : Server) (target : String) : Server × List ServerEvent :=
  if Route.ofTarget? target = some .stream then
    server.begin (.attachViewer server.relay.hub.config.queue)
      (some (.stream server.relay.hub.bus.nextId))
  else (server, [.turnedAway])

/-! ### Streams -/

/-- What the stream of a subscription does, if it is there. -/
def phase? (server : Server) (id : SubscriptionId) : Option StreamPhase :=
  (server.streams.find? fun stream => stream.id == id).map Stream.phase

/-- Changes what a stream does. -/
def setPhase (server : Server) (id : SubscriptionId) (phase : StreamPhase) : Server :=
  { server with
    streams := server.streams.map fun stream =>
      if stream.id = id then { stream with phase := phase } else stream }

/-- Tells whether a stream waits. -/
def isWaiting (server : Server) (id : SubscriptionId) : Bool :=
  match server.phase? id with
  | some .waiting => true
  | _ => false

/-- What the queue of a stream gives, if the stream waits. -/
def given? (server : Server) (id : SubscriptionId) : Option (Received Message) :=
  if server.isWaiting id then (server.relay.queue? id).map fun queue => queue.receive.2 else none

/-- Why the queue of a stream has come to its end. -/
def endOfQueue (server : Server) (id : SubscriptionId) : StreamReason :=
  if (server.relay.queue? id).any Queue.lagged then .lagged else .detached

/-- The stream that a move ends, and the reason for it. -/
def ending? (server : Server) : ServerMove → Option (SubscriptionId × StreamReason)
  | .take id =>
    match server.given? id with
    | some .ended => some (id, server.endOfQueue id)
    | _ => none
  | .writeFails id =>
    match server.phase? id with
    | some (.writing _) => some (id, .writeFailed)
    | _ => none
  | .viewerCloses id => if server.isWaiting id then some (id, .closedByViewer) else none
  | .readFails id => if server.isWaiting id then some (id, .readFailed) else none
  | .takeShutdown id =>
    if server.isWaiting id && server.stopping then some (id, .shutdown) else none
  | _ => none

/-- Ends a stream: removes its subscription. -/
def finish (server : Server) (id : SubscriptionId) (reason : StreamReason) :
    Server × List ServerEvent :=
  let (server, events) := server.moveRelay (.hub (.release id))
  (server.setPhase id .leaving, events ++ [.ended id reason])

/-- Takes the message that the queue of a stream gives, to write it. -/
def take (server : Server) (id : SubscriptionId) : Server × List ServerEvent :=
  match server.given? id with
  | some (.item message) =>
    let (server, events) := server.moveRelay (.receive id)
    (server.setPhase id (.writing message), events)
  | _ => (server, [])

/-- A stream has written its frame, and waits again. -/
def written (server : Server) (id : SubscriptionId) : Server × List ServerEvent :=
  match server.phase? id with
  | some (.writing message) => (server.setPhase id .waiting, [.wrote id message.frame])
  | _ => (server, [])

/-- Gives up the handle and the queue of a stream that has ended. -/
def leave (server : Server) (id : SubscriptionId) : Server × List ServerEvent :=
  match server.phase? id with
  | some .leaving =>
    let (server, events) := server.moveRelay (.hub (.discard id))
    let (server, later) := server.moveRelay (.dropReceiver id)
    ({ server with streams := server.streams.filter fun stream => stream.id != id },
      events ++ later)
  | _ => (server, [])

/-! ### Steps -/

/-- The server after a move that ends no stream, and what can be seen of it. -/
def proceed (server : Server) : ServerMove → Server × List ServerEvent
  | .request request => server.answer request
  | .ingest report => server.begin (.hub (.ingest report)) none
  | .openStream target => server.openStream target
  | .deliver => server.moveHub .deliver
  | .take id => server.take id
  | .written id => server.written id
  | .leave id => server.leave id
  | .shutdown => ({ server with stopping := true }, [])
  | .detach id => server.moveRelay (.hub (.detach id))
  | .writeFails _ | .viewerSays _ | .viewerCloses _ | .readFails _ | .takeShutdown _ =>
    (server, [])

/-- The server after a move, and what can be seen of it.  A stream takes no part in what it does
not wait for. -/
def step (server : Server) (move : ServerMove) : Server × List ServerEvent :=
  match server.ending? move with
  | some (id, reason) => server.finish id reason
  | none => server.proceed move

/-- The server after moves, and what can be seen of them. -/
def run (server : Server) : List ServerMove → Server × List ServerEvent
  | [] => (server, [])
  | move :: moves =>
    let (server, events) := server.step move
    let (server, later) := run server moves
    (server, events ++ later)

/-! ## Serving -/

/-- The lines that are logged while a server runs from its start to its shutdown. -/
def lifeLines (config : ServerConfig) : List LogLine :=
  let address := config.listen.render
  [⟨.info, "report server listening",
      [("addr", .string address), ("cache_capacity", .ofNat config.hub.cache)]⟩,
    ⟨.info, "report server stopped", [("addr", .string address)]⟩]

/-- Listening on an address and serving it until the shutdown: the lines logged, if the
address is free. -/
def serve (config : ServerConfig) (free : Bool) : Except ServerError (List LogLine) :=
  if free then .ok (lifeLines config)
  else .error (.bind config.listen "Address already in use")

end Server

end ReportRelay
