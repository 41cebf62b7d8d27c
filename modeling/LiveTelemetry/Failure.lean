import LiveTelemetry.Json.Fault
import LiveTelemetry.Schema.Basic

/-!
Failures as the client keeps and shows them: a kind, a message, the status of a remote answer, and
the text of the cause. A copy that is handed out for reading no longer has its cause.
-/
namespace LiveTelemetry

namespace Failure

inductive Kind where
  /-- A required input was missing, and nothing was attempted. -/
  | precondition
  | transport
  | timeout
  /-- An inbound message could not be understood. -/
  | protocol
  /-- The control service answered with a status that is no success. -/
  | remote
  | configuration
  | serialization
  | internal
  deriving DecidableEq

namespace Kind

def name : Kind → String
  | precondition => "Precondition"
  | transport => "Transport"
  | timeout => "Timeout"
  | protocol => "Protocol"
  | remote => "Remote"
  | configuration => "Configuration"
  | serialization => "Serialization"
  | internal => "Internal"

def label : Kind → String
  | precondition => "PRECONDITION"
  | transport => "TRANSPORT"
  | timeout => "TIMEOUT"
  | protocol => "PROTOCOL"
  | remote => "REMOTE"
  | configuration => "CONFIGURATION"
  | serialization => "SERIALIZATION"
  | internal => "INTERNAL"

def all : List Kind :=
  [precondition, transport, timeout, protocol, remote, configuration, serialization, internal]

def schema : Schema := .choice "ErrorKind" (all.map name)

end Kind
end Failure

structure Failure where
  kind : Failure.Kind
  message : String
  status : Option UInt16 := none
  cause : Option String := none
  deriving DecidableEq

namespace Failure

def precondition (message : String) : Failure := ⟨.precondition, message, none, none⟩

def transport (message : String) : Failure := ⟨.transport, message, none, none⟩

def timeout (message : String) : Failure := ⟨.timeout, message, none, none⟩

def protocol (message : String) : Failure := ⟨.protocol, message, none, none⟩

def remote (status : UInt16) (message : String) : Failure := ⟨.remote, message, some status, none⟩

def configuration (message : String) : Failure := ⟨.configuration, message, none, none⟩

def internal (message : String) : Failure := ⟨.internal, message, none, none⟩

def causedBy (kind : Kind) (message cause : String) : Failure := ⟨kind, message, none, some cause⟩

def noCredential : Failure := precondition "No credential available"

/-- The failure that a fault of JSON text or of a JSON value is kept as. -/
def ofJsonFault (f : Json.Fault) : Failure :=
  causedBy .serialization ("JSON serialization error: " ++ f.message) f.message

def ofMismatch (m : Mismatch) : Failure := ofJsonFault ⟨.mismatch m, none⟩

/-- The failure of a setting, from the text of what is wrong with it. -/
def ofSetting (text : String) : Failure :=
  causedBy .configuration ("Configuration error: " ++ text) text

/-- The failure of the push channel, from the text of its cause. -/
def ofChannel (text : String) : Failure :=
  causedBy .transport ("Push channel error: " ++ text) text

def copy (f : Failure) : Failure := { f with cause := none }

def display (f : Failure) : String := f.kind.label ++ ": " ++ f.message

def isKind (f : Failure) (k : Kind) : Bool := f.kind == k

example : (precondition "Device id is required").display =
    "PRECONDITION: Device id is required" := by decide +kernel

end Failure
end LiveTelemetry
