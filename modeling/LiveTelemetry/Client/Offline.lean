import LiveTelemetry.Channel.Attempt
import LiveTelemetry.Channel.Dial
import LiveTelemetry.Control.Controller

/-!
A client without a network: what is dialled is out of reach, and so is the service that requests
go to.
-/
namespace LiveTelemetry.Offline

def noNetwork : String := "IO error: Network is unreachable (os error 101)"

/-- What comes of a handshake. An address that cannot be dialled is refused before the network
counts. -/
def dial (u : Url) : Outcome :=
  match Dial.check u with
  | .error r => .failed (.ofChannel r.message)
  | .ok () => .failed (.ofChannel noNetwork)

/-- What becomes of a request. One that may take no time at all is late before it fails. -/
def exchange (c : Controller) (_ : Request) : Exchange :=
  if c.timeout = 0 then .expired else .unreachable

end LiveTelemetry.Offline
