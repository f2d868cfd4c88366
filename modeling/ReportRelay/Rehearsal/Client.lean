/-
# Rehearsals of a client

A client on a clock that moves only when everything waits.  Its attempts to connect, the
frames that it reads, its consumer and the acts of its owner follow a script; computation
takes no time.
-/
import ReportRelay.Client.Machine
import ReportRelay.Config
import ReportRelay.Store

namespace ReportRelay

/-! ## Scripts -/

/-- What reading the next frame of a scripted connection leads to. -/
inductive FrameOutcome where
  /-- A frame. -/
  | text (frame : String)
  /-- The end of the connection by the peer. -/
  | close
  /-- A failure of the connection. -/
  | fail (error : String)
  deriving Repr

/-- What an attempt to connect leads to: a failure, or a connection with frames, each of
them some milliseconds after it is asked for. -/
inductive ConnectOutcome where
  /-- A failure. -/
  | fail (error : String)
  /-- A connection. -/
  | opens (frames : List (Nat × FrameOutcome))
  deriving Repr

/-- An act of the owner of a client. -/
inductive OwnerAct where
  /-- Requests a reconnection. -/
  | reconnect
  /-- Cancels the client. -/
  | cancel
  /-- Looks at the state. -/
  | look
  /-- Cancels the client at the end of the rehearsal. -/
  | finish
  deriving DecidableEq, Repr

/-- The script of a rehearsal. -/
structure ClientScript where
  /-- The settings of the client. -/
  config : ClientConfig
  /-- The outcomes of the attempts, each after some milliseconds; attempts beyond them never
  come to an end. -/
  connects : List (Nat × ConnectOutcome)
  /-- The milliseconds that the consumer takes over a report. -/
  consumerDelay : Nat
  /-- The identifiers of the reports over which the consumer panics. -/
  panicIds : List String
  /-- The acts of the owner and their times. -/
  acts : List (Nat × OwnerAct)

/-! ## State -/

/-- What can be seen in a rehearsal. -/
inductive ClientNote where
  /-- An attempt starts. -/
  | attempted (attempt : Nat)
  /-- A report is handed to the consumer. -/
  | handed (id : String) (status : GroupStatus)
  /-- The connection of an attempt is closed. -/
  | closed (attempt : Nat)
  /-- The owner acts, and sees this state just before. -/
  | act (act : OwnerAct) (seen : ClientState)

/-- A client in its scripted surroundings. -/
structure ClientRehearsal where
  /-- The script that is still to be played. -/
  script : ClientScript
  /-- The client. -/
  client : Client
  /-- The frames that the open connection still has. -/
  frames : List (Nat × FrameOutcome)
  /-- What the client waits for, and when it comes. -/
  due : Option (Nat × ClientMove)
  /-- The report that the consumer has. -/
  held : Option GroupedReport
  /-- The store of the consumer. -/
  store : Store
  /-- What was seen and when, last first. -/
  notes : List (Nat × ClientNote)
  /-- The changes of state, last first. -/
  changes : List ClientState
  /-- What was logged, last first. -/
  log : List LogLine

namespace ClientRehearsal

/-- The endpoint of scripted connections. -/
def endpoint : String := "mock://hub"

/-- The name of the consumer. -/
def consumer : String := "owner"

/-- The start of a rehearsal. -/
def ofScript (script : ClientScript) : ClientRehearsal :=
  ⟨script, .ofDelay script.config.delay, [], none, none, .empty, [], [], []⟩

/-- Adds a note. -/
def note (r : ClientRehearsal) (n : ClientNote) : ClientRehearsal :=
  { r with notes := (r.client.clock, n) :: r.notes }

/-- Keeps what can be seen of an event. -/
def witness (r : ClientRehearsal) (event : ClientEvent) : ClientRehearsal :=
  let r := { r with
    log := (event.logLine? endpoint consumer r.client.delay).toList ++ r.log }
  match event with
  | .changed state => { r with changes := state :: r.changes }
  | .attempted attempt => r.note (.attempted attempt)
  | .handed report => { r.note (.handed report.id report.root.status) with held := some report }
  | .closing attempt => r.note (.closed attempt)
  | _ => r

/-- What the outcome of reading a frame is to the client. -/
def frameMove : FrameOutcome → ClientMove
  | .text frame => .frame frame
  | .close => .peerClosed
  | .fail error => .readFailed (.transport error)

/-- Sets up what the client waits for in a new phase. -/
def arrange (r : ClientRehearsal) : ClientRehearsal :=
  let now := r.client.clock
  match r.client.phase with
  | .opening =>
    match r.script.connects with
    | [] => { r with due := none }
    | (latency, outcome) :: rest =>
      let r := { r with script := { r.script with connects := rest } }
      match outcome with
      | .fail error => { r with due := some (now + latency, .refused (.connect error)) }
      | .opens frames => { r with frames := frames, due := some (now + latency, .opened) }
  | .reading =>
    match r.frames with
    | [] => { r with due := none }
    | (after, outcome) :: rest =>
      { r with frames := rest, due := some (now + after, frameMove outcome) }
  | .consuming id =>
    let done : ClientMove :=
      if r.script.panicIds.contains id then .panicked (some s!"consumer failure on {id}")
      else .consumed
    { r with due := some (now + r.script.consumerDelay, done) }
  | _ => { r with due := none }

/-- Puts the report of a consumer that is done into the store. -/
def keepHeld (r : ClientRehearsal) (move : ClientMove) : ClientRehearsal :=
  match move, r.held with
  | .consumed, some report => { r with store := r.store.add report, held := none }
  | _, _ => r

/-- A move by which the client goes on. -/
def goOn (r : ClientRehearsal) (move : ClientMove) : ClientRehearsal :=
  let r := r.keepHeld move
  let (client, events) := r.client.step move
  (events.foldl witness { r with client := client }).arrange

/-- An act of the owner. -/
def perform (r : ClientRehearsal) (act : OwnerAct) : ClientRehearsal :=
  let r := r.note (.act act r.client.state)
  match act with
  | .reconnect => { r with client := (r.client.step .request).1 }
  | .cancel => { r with client := (r.client.step .cancel).1 }
  | .look => r
  | .finish => { r with client := (r.client.step .cancel).1 }

/-! ## The play -/

/-- The move that what the client waits for makes, if it has come. -/
def arrived? (r : ClientRehearsal) : Option ClientMove :=
  match r.due with
  | none => none
  | some (time, move) => if time ≤ r.client.clock then some move else none

/-- The move that the client makes at once, if there is one. -/
def ready? (r : ClientRehearsal) : Option ClientMove :=
  let c := r.client
  match c.phase with
  | .idle => some .start
  | .opening => if c.cancelled then some .quit else r.arrived?
  | .reading =>
    if c.cancelled then some .quit else if c.requested then some .obey else r.arrived?
  | .consuming _ => r.arrived?
  | .closing _ => some .closed
  | .waiting elapsed =>
    if c.cancelled then some .quit
    else if c.requested then some .obey
    else if c.delay ≤ elapsed then some .wake
    else none
  | .stopped => none

/-- The time when the delay ends, if the client waits for that. -/
def delayEnd? (r : ClientRehearsal) : Option Nat :=
  match r.client.phase with
  | .waiting elapsed => some (r.client.clock + (r.client.delay - elapsed))
  | _ => none

/-- The next time at which something happens. -/
def nextTime? (r : ClientRehearsal) : Option Nat :=
  (r.script.acts.head?.map Prod.fst).toList ++ (r.due.map Prod.fst).toList ++ r.delayEnd?.toList
    |>.min?

/-- Plays at most so many steps: acts of the owner whose time has come, then moves of the
client, then the passing of time. -/
def play : Nat → ClientRehearsal → ClientRehearsal
  | 0, r => r
  | fuel + 1, r =>
    match r.script.acts with
    | (time, act) :: rest =>
      if time ≤ r.client.clock then
        play fuel (perform { r with script := { r.script with acts := rest } } act)
      else playClient fuel r
    | [] => playClient fuel r
where
  /-- Plays on when no act of the owner is due. -/
  playClient (fuel : Nat) (r : ClientRehearsal) : ClientRehearsal :=
    match r.ready? with
    | some move => play fuel (r.goOn move)
    | none =>
      match r.nextTime? with
      | none => r
      | some time =>
        play fuel { r with client := (r.client.step (.elapse (time - r.client.clock))).1 }

/-- The number of frames of an outcome. -/
def frameCount : ConnectOutcome → Nat
  | .fail _ => 0
  | .opens frames => frames.length

/-- A bound on the number of steps of a script. -/
def steps (script : ClientScript) : Nat :=
  4 * (script.acts.length
    + script.connects.foldl (fun n connect => n + 10 + 4 * frameCount connect.2) 10)

/-- Plays a script to its end. -/
def playAll (script : ClientScript) : ClientRehearsal := play (steps script) (ofScript script)

/-- What an observer of the changes sees that looks only at the end. -/
def observed (script : ClientScript) (r : ClientRehearsal) : List Observed :=
  observeLate script.config.history r.changes.reverse

end ClientRehearsal

end ReportRelay
