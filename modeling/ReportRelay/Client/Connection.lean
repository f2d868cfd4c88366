/-
# Reading a connection

What the client reads from a websocket connection.  Binary frames that hold text count as
text, and others are skipped, as are pings and pongs; the stream ends with a close frame
or where the connection ends.
-/
import ReportRelay.Network

namespace ReportRelay

/-- A frame as it comes from the peer, or the failure to read one. -/
inductive WireFrame where
  /-- A text frame. -/
  | text (content : String)
  /-- A binary frame. -/
  | binary (content : ByteArray)
  /-- A ping or a pong. -/
  | control
  /-- A close frame. -/
  | close
  /-- No frame can be read. -/
  | broken (cause : String)

/-- The next text frame and what follows it; nothing at the end of the stream. -/
def nextFrame : List WireFrame → Option (Except ClientError String × List WireFrame)
  | [] => none
  | .text content :: rest => some (.ok content, rest)
  | .binary content :: rest =>
    match String.fromUTF8? content with
    | some text => some (.ok text, rest)
    | none => nextFrame rest
  | .control :: rest => nextFrame rest
  | .close :: _ => none
  | .broken cause :: rest => some (.error (.transport cause), rest)

/-- What is read from a connection up to the first thing that is no text, which is nothing
at the end of the stream; at most so many text frames. -/
def readUntilEnd : Nat → List WireFrame → List (Option (Except ClientError String))
  | 0, _ => []
  | fuel + 1, frames =>
    match nextFrame frames with
    | none => [none]
    | some (.error error, _) => [some (.error error)]
    | some (.ok text, rest) => some (.ok text) :: readUntilEnd fuel rest

/-- Connects to a peer that sends these frames, and reads them. -/
def follow (network : Network) (frames : List WireFrame) :
    List (Option (Except ClientError String)) :=
  match network.connect true with
  | .error error => [some (.error error)]
  | .ok () => readUntilEnd (frames.length + 1) frames

end ReportRelay
