import LiveTelemetry.DeviceId
import LiveTelemetry.Settings.Sections
import LiveTelemetry.Url.Parser

/-!
Targets of a push channel, and the address at which a target is subscribed to.
-/
namespace LiveTelemetry

structure Target where
  device : DeviceId
  vendor : String
  deriving DecidableEq

namespace Target

/-- The target of a request; a blank vendor stands for the configured one. -/
def ofRequest (s : ChannelSettings) (device : DeviceId) (vendor : String) : Target :=
  ⟨device, if Text.isBlank vendor then s.vendor else vendor⟩

/-- What a subscription tells the backend. -/
def parameters (t : Target) (c : Credential) : List (String × String) :=
  [("device_id", t.device.text), ("vendor", t.vendor), ("token", c.token)]

/-- The address of a subscription: the configured one with the parameters behind its query. -/
def address (s : ChannelSettings) (t : Target) (c : Credential) : Except Failure Url :=
  match Url.parse s.url with
  | .error f => .error (.configuration ("Invalid channel URL: " ++ f.message))
  | .ok u => .ok (u.addPairs (t.parameters c))

/-- Diagnostic text. -/
def diagnostic (t : Target) : String :=
  "Target \x7b device_id: " ++ t.device.quoted ++ ", vendor: " ++ Text.quoted t.vendor ++ " \x7d"

end Target
end LiveTelemetry
