import LiveTelemetry.Failure
import LiveTelemetry.Text.Blank

/-!
Identifiers of monitored devices. The client does not interpret them; it only refuses blank ones.
-/
namespace LiveTelemetry

structure DeviceId where
  text : String
  deriving DecidableEq, Inhabited

namespace DeviceId

theorem text_inj {d e : DeviceId} : d.text = e.text ↔ d = e := ⟨congrArg mk, congrArg text⟩

def isBlank (d : DeviceId) : Bool := Text.isBlank d.text

def required : Failure := .precondition "Device id is required"

/-- The identifier that a user types, without the blanks around it. -/
def parse (raw : String) : Except Failure DeviceId :=
  if Text.isBlank raw then .error required else .ok ⟨Text.trim raw⟩

def codec : Codec DeviceId where
  schema := .text
  toDatum d := .text d.text
  ofDatum? d := d.text?.map DeviceId.mk

/-- Diagnostic text. -/
def quoted (d : DeviceId) : String := "DeviceId(" ++ Text.quoted d.text ++ ")"

end DeviceId
end LiveTelemetry
