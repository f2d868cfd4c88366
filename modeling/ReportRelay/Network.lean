/-
# Networks

What a host can reach: whether connections to the host itself are made at all.
-/
import ReportRelay.Client.Error

namespace ReportRelay

/-- What a host can reach. -/
inductive Network where
  /-- Connections to the host itself are made. -/
  | loopback
  /-- No connection is made; the text says why. -/
  | unreachable (cause : String)
  deriving DecidableEq, Repr

namespace Network

/-- A host without routes. -/
def isolated : Network := .unreachable "IO error: Network is unreachable (os error 101)"

/-- Opening a connection to a peer that turns it away unless it accepts. -/
def connect (network : Network) (accepts : Bool) : Except ClientError Unit :=
  match network with
  | .unreachable cause => .error (.connect cause)
  | .loopback => if accepts then .ok () else .error (.connect "HTTP error")

end Network

end ReportRelay
