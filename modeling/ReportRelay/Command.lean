/-
# Commands

The commands of the program and their arguments.  The server and the watcher work on lines:
the server takes the body of a request from each line and gives the response and the frame
that its viewers get, the watcher takes a frame from each line and gives log lines.
-/
import ReportRelay.Client.Machine
import ReportRelay.Server.Stream
import ReportRelay.Summary

namespace ReportRelay

/-- A command with its settings. -/
inductive Command where
  /-- Publishes the bodies that are read. -/
  | serve (config : HubConfig)
  /-- Follows the frames that are read. -/
  | watch
  deriving DecidableEq, Repr

namespace Command

/-- How the program is called. -/
def usage : String := "usage: report-relay serve [--cache N] [--queue N] | report-relay watch"

/-- The settings that arguments ask for. -/
def settings? (config : HubConfig) : List String → Option HubConfig
  | [] => some config
  | "--cache" :: n :: rest =>
    n.toNat?.bind fun n => settings? { config with cacheCapacity := n } rest
  | "--queue" :: n :: rest =>
    n.toNat?.bind fun n => settings? { config with queueCapacity := n } rest
  | _ => none

/-- The command that arguments ask for. -/
def ofArguments? : List String → Option Command
  | "serve" :: rest => (settings? {} rest).map serve
  | ["watch"] => some watch
  | _ => none

end Command

/-- The text of a response on a line. -/
def Response.line (response : Response) : String :=
  match response.body with
  | .empty => toString response.status
  | .document value => toString response.status ++ " " ++ value.render
  | .text message => toString response.status ++ " " ++ message

/-- The server after a body was posted to it, and the lines that tell of it. -/
def Server.takeLine (server : Server) (body : String) : Server × List String :=
  let (server, events) := server.step (.request ⟨"POST", "/api/publish_report", body.toUTF8⟩)
  let lines := events.filterMap fun event =>
    match event with
    | .responded response => some response.line
    | .relay (.hub (.ingested message _)) => some message.frame
    | _ => none
  (server, lines)

/-- The lines that tell of a frame. -/
def watchLine (frame : String) : List String :=
  match decodeFrame frame with
  | .ok (some report) => report.summary.map LogLine.render
  | .ok none => (ClientEvent.ignored.logLine? "" "" 0).toList.map LogLine.render
  | .error error => ((ClientEvent.dropped error).logLine? "" "" 0).toList.map LogLine.render

end ReportRelay
