import LiveTelemetry.Channel.Dial
import LiveTelemetry.DeviceId
import LiveTelemetry.Http.Authorization
import LiveTelemetry.Settings.Sections
import LiveTelemetry.Url.Parser

/-!
Requests to the control service, which starts and stops the collection of a device.
-/
namespace LiveTelemetry

inductive Action where
  | start
  | stop
  deriving DecidableEq

def Action.name : Action → String
  | start => "start"
  | stop => "stop"

/-- A request as it is sent. -/
structure Request where
  action : Action
  /-- The address as it is sent, without the user and the password that a header has. -/
  url : Url
  /-- The authorization headers: for the user of the address, if it has one, and the credential. -/
  authorization : List String
  deriving DecidableEq

namespace Request

def failed (text : String) : Failure :=
  .causedBy .transport ("HTTP request failed: " ++ text) text

/-- A request that cannot be put together. -/
def unbuildable : Failure := failed "builder error"

def unbuildableFor (u : Url) : Failure := failed ("builder error for url (" ++ u.render ++ ")")

def notSentText (u : Url) : String := "error sending request for url (" ++ u.render ++ ")"

/-- A request that was not answered. -/
def notSent (u : Url) : Failure := failed (notSentText u)

/-- A request that was not answered in time. -/
def late (u : Url) : Failure :=
  .causedBy .timeout ("HTTP request failed: " ++ notSentText u) (notSentText u)

/-- The address for an action on a device: three segments behind the path of the base. -/
def endpoint? (base : Url) (a : Action) (d : DeviceId) : Option Url :=
  base.addNames? ["collection", a.name, d.text]

/-- Puts a request together. -/
def build (base : Url) (a : Action) (d : DeviceId) (k : Credential) : Except Failure Request :=
  match endpoint? base a d with
  | none => .error (.configuration "Control API URL cannot be a base")
  | some u =>
    let bare := Http.bare u
    if !Http.isHeaderValue k.bearer then .error unbuildable
    else if !(u.scheme == "http" || u.scheme == "https") then .error (unbuildableFor bare)
    else
      match Dial.checkForm bare with
      | .error _ => .error (unbuildableFor bare)
      | .ok () => .ok ⟨a, bare, (Http.basic? u).toList ++ [k.bearer]⟩

end Request
end LiveTelemetry
