/-
# The reconnecting client

The client keeps one connection to a stream open.  When it cannot be opened, or ends, the
client tries again after a fixed delay, for ever, until it is cancelled.  A reconnection
may be requested: it tears the open connection down, or cuts the delay short, at once.

The client is a machine that is driven by moves, which say what its surroundings do and,
where several things are ready at the same time, which of them it takes.  A move that is
not possible in a phase changes nothing.  Time passes only while nothing is ready that the
client would take at once.

A request is remembered until it is used, and any number of them count as one.  One that
is made while a connection is being opened, or before, is satisfied by that connection.
-/
import ReportRelay.Client.Frame
import ReportRelay.Client.State
import ReportRelay.Delivery
import ReportRelay.Log

namespace ReportRelay

/-! ## State -/

/-- Why the reading of a connection has ended. -/
inductive StreamEnd where
  /-- The client has been cancelled. -/
  | cancelled
  /-- A reconnection was requested. -/
  | forced
  /-- The peer has closed the connection. -/
  | closed
  /-- The connection has failed. -/
  | failed (error : ClientError)
  deriving DecidableEq, Repr

/-- What the client is waiting for. -/
inductive Phase where
  /-- It has not started. -/
  | idle
  /-- A connection is being opened. -/
  | opening
  /-- The next frame of the open connection. -/
  | reading
  /-- The consumer of a report. -/
  | consuming (id : String)
  /-- The connection is being closed. -/
  | closing (reason : StreamEnd)
  /-- The end of the delay, of which so many milliseconds have passed. -/
  | waiting (elapsed : Nat)
  /-- It has stopped. -/
  | stopped
  deriving DecidableEq, Repr

/-- The state of a client. -/
structure Client where
  /-- The delay before a new attempt, in milliseconds. -/
  delay : Nat
  /-- What it is waiting for. -/
  phase : Phase
  /-- The state of the connection as it was last published. -/
  state : ClientState
  /-- The number of attempts to open a connection. -/
  attempt : Nat
  /-- Whether a request for a reconnection is remembered. -/
  requested : Bool
  /-- Whether it has been cancelled. -/
  cancelled : Bool
  /-- The milliseconds that have passed. -/
  clock : Nat
  deriving DecidableEq, Repr

/-- A client that has not started. -/
def Client.ofDelay (delay : Nat) : Client := ⟨delay, .idle, .disconnected, 0, false, false, 0⟩

/-! ## Moves and events -/

/-- What the surroundings of a client do, or which of the things that are ready it
takes. -/
inductive ClientMove where
  /-- The client starts. -/
  | start
  /-- A reconnection is requested. -/
  | request
  /-- The client is cancelled. -/
  | cancel
  /-- The connection has been opened, and the client takes it. -/
  | opened
  /-- The connection could not be opened, and the client takes note. -/
  | refused (error : ClientError)
  /-- The client reads a frame. -/
  | frame (text : String)
  /-- The client finds that the peer has closed the connection. -/
  | peerClosed
  /-- The client finds that the connection has failed. -/
  | readFailed (error : ClientError)
  /-- The consumer is done with the report. -/
  | consumed
  /-- The consumer has panicked, with a text if it gave one. -/
  | panicked (info : Option String)
  /-- The connection is closed. -/
  | closed
  /-- Time passes. -/
  | elapse (millis : Nat)
  /-- The client takes the end of the delay. -/
  | wake
  /-- The client takes a request. -/
  | obey
  /-- The client takes its cancellation. -/
  | quit
  deriving Repr

/-- What can be seen of a client. -/
inductive ClientEvent where
  /-- A new state has been published. -/
  | changed (state : ClientState)
  /-- An attempt to open a connection starts. -/
  | attempted (attempt : Nat)
  /-- An attempt has failed. -/
  | refused (attempt : Nat) (error : ClientError)
  /-- An attempt has brought a connection. -/
  | opened (attempt : Nat)
  /-- A frame has been read. -/
  | read (text : String)
  /-- A message of an unknown type has been ignored. -/
  | ignored
  /-- A bad frame has been dropped. -/
  | dropped (error : ClientError)
  /-- A report has been handed to the consumer. -/
  | handed (report : GroupedReport)
  /-- The consumer has panicked over a report. -/
  | panicked (id : String) (info : Option String)
  /-- The closing of the connection of an attempt starts. -/
  | closing (attempt : Nat)
  /-- A connection has ended. -/
  | lost (reason : StreamEnd)
  /-- A request has cut the delay short. -/
  | hurried
  /-- The client has stopped. -/
  | stopped
  deriving Repr

namespace Client

/-- Publishes a state, if it is a new one. -/
def publish (client : Client) (state : ClientState) : Client × List ClientEvent :=
  if client.state = state then (client, [])
  else ({ client with state := state }, [.changed state])

/-- Stops. -/
def stop (client : Client) : Client × List ClientEvent :=
  let (client, events) := client.publish .disconnected
  ({ client with phase := .stopped }, events ++ [.stopped])

/-- Starts an attempt to open a connection, which uses up a remembered request; a cancelled
client stops instead. -/
def beginAttempt (client : Client) : Client × List ClientEvent :=
  if client.cancelled then client.stop
  else
    let attempt := client.attempt + 1
    let (client, events) := publish
      { client with requested := false, attempt := attempt, phase := .opening } .connecting
    (client, events ++ [.attempted attempt])

/-- Takes the opened connection, which uses up a remembered request. -/
def takeConnection (client : Client) : Client × List ClientEvent :=
  let (client, events) := publish { client with requested := false, phase := .reading } .connected
  (client, events ++ [.opened client.attempt])

/-- Takes note of a failed attempt, and waits. -/
def takeRefusal (client : Client) (error : ClientError) : Client × List ClientEvent :=
  let (client, events) := publish { client with phase := .waiting 0 } .disconnected
  (client, events ++ [.refused client.attempt error])

/-- Takes a frame: hands its report to the consumer, or goes on reading. -/
def takeFrame (client : Client) (text : String) : Client × List ClientEvent :=
  match decodeFrame text with
  | .ok (some report) =>
    ({ client with phase := .consuming report.id }, [.read text, .handed report])
  | .ok none => (client, [.read text, .ignored])
  | .error error => (client, [.read text, .dropped error])

/-- Starts to close the connection. -/
def beginClose (client : Client) (reason : StreamEnd) : Client × List ClientEvent :=
  ({ client with phase := .closing reason }, [.closing client.attempt])

/-- Goes on when the connection is closed: stops, makes a new attempt at once, or waits. -/
def afterClose (client : Client) (reason : StreamEnd) : Client × List ClientEvent :=
  let (client, published) := client.publish .disconnected
  let (client, events) :=
    match reason with
    | .cancelled => client.stop
    | .forced => client.beginAttempt
    | .closed => ({ client with phase := .waiting 0 }, [])
    | .failed _ => ({ client with phase := .waiting 0 }, [])
  (client, published ++ .lost reason :: events)

/-- Tells whether time can pass by so many milliseconds: nothing is ready, and the delay
does not end before. -/
def canElapse (client : Client) (millis : Nat) : Bool :=
  match client.phase with
  | .opening => !client.cancelled
  | .reading => !client.cancelled && !client.requested
  | .waiting elapsed => !client.cancelled && !client.requested && elapsed + millis ≤ client.delay
  | _ => true

/-- Lets time pass. -/
def elapse (client : Client) (millis : Nat) : Client :=
  let client := { client with clock := client.clock + millis }
  match client.phase with
  | .waiting elapsed => { client with phase := .waiting (elapsed + millis) }
  | _ => client

/-- Takes a request: tears the connection down, or ends the delay. -/
def obey (client : Client) : Client × List ClientEvent :=
  match client.phase with
  | .reading =>
    if client.requested && !client.cancelled then
      beginClose { client with requested := false } .forced
    else (client, [])
  | .waiting _ =>
    if client.requested then
      let (client, events) := beginAttempt { client with requested := false }
      (client, .hurried :: events)
    else (client, [])
  | _ => (client, [])

/-- Takes a cancellation. -/
def quit (client : Client) : Client × List ClientEvent :=
  if !client.cancelled then (client, [])
  else
    match client.phase with
    | .opening => client.stop
    | .reading => client.beginClose .cancelled
    | .waiting _ => client.stop
    | _ => (client, [])

/-- Tells whether the client would take a frame, or the end of the connection: a request or
a cancellation comes first. -/
def readsNext (client : Client) : Bool :=
  client.phase = .reading && !client.cancelled && !client.requested

/-- The client after a move, and what can be seen of it. -/
def step (client : Client) : ClientMove → Client × List ClientEvent
  | .start => if client.phase = .idle then client.beginAttempt else (client, [])
  | .request => ({ client with requested := true }, [])
  | .cancel => ({ client with cancelled := true }, [])
  | .opened => if client.phase = .opening then client.takeConnection else (client, [])
  | .refused error => if client.phase = .opening then client.takeRefusal error else (client, [])
  | .frame text => if client.readsNext then client.takeFrame text else (client, [])
  | .peerClosed => if client.readsNext then client.beginClose .closed else (client, [])
  | .readFailed error =>
    if client.readsNext then client.beginClose (.failed error) else (client, [])
  | .consumed =>
    match client.phase with
    | .consuming _ => ({ client with phase := .reading }, [])
    | _ => (client, [])
  | .panicked info =>
    match client.phase with
    | .consuming id => ({ client with phase := .reading }, [.panicked id info])
    | _ => (client, [])
  | .closed =>
    match client.phase with
    | .closing reason => client.afterClose reason
    | _ => (client, [])
  | .elapse millis => if client.canElapse millis then (client.elapse millis, []) else (client, [])
  | .wake =>
    match client.phase with
    | .waiting elapsed => if client.delay ≤ elapsed then client.beginAttempt else (client, [])
    | _ => (client, [])
  | .obey => client.obey
  | .quit => client.quit

/-- The client after moves, and what can be seen of them, with the time of each event. -/
def run (client : Client) : List ClientMove → Client × List (Nat × ClientEvent)
  | [] => (client, [])
  | move :: moves =>
    let (next, events) := client.step move
    let (last, later) := run next moves
    (last, events.map (fun event => (client.clock, event)) ++ later)

end Client

/-! ## Log lines -/

/-- The log line about an event of a client with the given endpoint and delay, whose
consumer has the given name. -/
def ClientEvent.logLine? (endpoint consumer : String) (delay : Nat) :
    ClientEvent → Option LogLine
  | .changed state => some ⟨.debug, "client state changed", [("state", .string state.name)]⟩
  | .attempted _ => none
  | .refused attempt error =>
    some ⟨.warn, "connect failed",
      [("endpoint", .string endpoint), ("attempt", .ofNat attempt),
        ("label", .string error.label), ("error", .string error.display),
        ("delay_ms", .ofNat delay)]⟩
  | .opened attempt =>
    some ⟨.info, "connected", [("endpoint", .string endpoint), ("attempt", .ofNat attempt)]⟩
  | .read _ => none
  | .ignored => some ⟨.debug, "ignoring message of unknown type", []⟩
  | .dropped error =>
    some ⟨.warn, "dropping message",
      [("label", .string error.label), ("error", .string error.message)]⟩
  | .handed _ => none
  | .panicked id info =>
    some ⟨.error, "consumer panicked",
      [("consumer", .string consumer), ("report", .string id),
        ("panic", .string (Outcome.panicText info))]⟩
  | .closing _ => none
  | .lost .cancelled => none
  | .lost .forced => some ⟨.info, "reconnect requested", [("endpoint", .string endpoint)]⟩
  | .lost .closed =>
    some ⟨.warn, "connection closed by peer",
      [("endpoint", .string endpoint), ("delay_ms", .ofNat delay)]⟩
  | .lost (.failed error) =>
    some ⟨.warn, "connection lost",
      [("endpoint", .string endpoint), ("label", .string error.label),
        ("error", .string error.display), ("delay_ms", .ofNat delay)]⟩
  | .hurried =>
    some ⟨.debug, "reconnect requested during delay", [("endpoint", .string endpoint)]⟩
  | .stopped => some ⟨.info, "client stopped", [("endpoint", .string endpoint)]⟩

end ReportRelay
