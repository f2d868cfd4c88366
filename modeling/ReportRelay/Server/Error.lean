/-
# Errors of the server

Why the server cannot run.
-/
import ReportRelay.Server.Address

namespace ReportRelay

/-- An error of the server. -/
inductive ServerError where
  /-- The address cannot be listened on. -/
  | bind (address : Address) (cause : String)
  /-- Serving failed. -/
  | serve (cause : String)
  deriving DecidableEq, Repr

namespace ServerError

/-- The short name of the cause in logs. -/
def label : ServerError → String
  | bind _ _ => "server_bind"
  | serve _ => "server_serve"

/-- The text with a short heading. -/
def message : ServerError → String
  | bind address cause => "bind " ++ address.render ++ ": " ++ cause
  | serve cause => s!"serve: {cause}"

/-- The text that states the cause in full. -/
def display : ServerError → String
  | bind address cause => "failed to bind " ++ address.render ++ ": " ++ cause
  | serve cause => s!"server failed: {cause}"

end ServerError

end ReportRelay
