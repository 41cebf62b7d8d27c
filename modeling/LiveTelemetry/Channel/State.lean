import LiveTelemetry.Schema.Basic

/-!
The three states of a push channel.
-/
namespace LiveTelemetry

inductive ChannelState where
  | disconnected
  | connecting
  | connected
  deriving DecidableEq

namespace ChannelState

def tag : ChannelState → String
  | disconnected => "disconnected"
  | connecting => "connecting"
  | connected => "connected"

def name : ChannelState → String
  | disconnected => "Disconnected"
  | connecting => "Connecting"
  | connected => "Connected"

def ofTag? (s : String) : Option ChannelState :=
  [disconnected, connecting, connected].find? fun c => c.tag == s

def isConnected (s : ChannelState) : Bool := s == connected

def codec : Codec ChannelState where
  schema := .choice "ConnectionState" [tag disconnected, tag connecting, tag connected]
  toDatum s := .choice s.tag
  ofDatum?
    | .choice s => ofTag? s
    | _ => none

end ChannelState
end LiveTelemetry
