import LiveTelemetry.Failure
import LiveTelemetry.Settings.Sections
import LiveTelemetry.Url.Parser

/-!
The settings of the client, and when they can be used: limits are positive, and both addresses are
of a scheme that fits.
-/
namespace LiveTelemetry

structure Settings where
  channel : ChannelSettings := {}
  control : ControlSettings := {}
  history : HistorySettings := {}
  auth : AuthSettings := {}
  logging : LoggingSettings := {}
  deriving DecidableEq

namespace Settings

def standard : Settings := {}

def toDatum (s : Settings) : Datum :=
  .record [("channel", s.channel.toDatum), ("control", s.control.toDatum),
    ("history", s.history.toDatum), ("auth", s.auth.toDatum), ("logging", s.logging.toDatum)]

def codec : Codec Settings where
  schema := .record "AppConfig"
    [Schema.withDefault "channel" ChannelSettings.codec.schema standard.channel.toDatum,
      Schema.withDefault "control" ControlSettings.codec.schema standard.control.toDatum,
      Schema.withDefault "history" HistorySettings.codec.schema standard.history.toDatum,
      Schema.withDefault "auth" AuthSettings.codec.schema standard.auth.toDatum,
      Schema.withDefault "logging" LoggingSettings.codec.schema standard.logging.toDatum]
  toDatum := toDatum
  ofDatum?
    | .record [(_, a), (_, b), (_, c), (_, d), (_, e)] => do
      return ⟨← ChannelSettings.codec.ofDatum? a, ← ControlSettings.codec.ofDatum? b,
        ← HistorySettings.codec.ofDatum? c, ← AuthSettings.codec.ofDatum? d,
        ← LoggingSettings.codec.ofDatum? e⟩
    | _ => none

/-- Why settings cannot be used. -/
inductive Defect where
  | zero (field : String)
  | blank (field : String)
  | badUrl (field : String) (fault : Url.Fault)
  | badScheme (field : String) (wanted : List String) (scheme : String)
  deriving DecidableEq

def Defect.message : Defect → String
  | zero field => field ++ " must be greater than zero"
  | blank field => field ++ " must not be empty"
  | badUrl field fault => field ++ " is not a valid URL: " ++ fault.message
  | badScheme field wanted scheme =>
    field ++ " must use one of [" ++ ", ".intercalate (wanted.map Text.quoted) ++ "], got \x27" ++
      scheme ++ "\x27"

def checkUrl (field raw : String) (schemes : List String) : Except Defect Unit :=
  if Text.isBlank raw then .error (.blank field)
  else match Url.parse raw with
    | .error f => .error (.badUrl field f)
    | .ok u =>
      if schemes.contains u.scheme then .ok () else .error (.badScheme field schemes u.scheme)

def checkPositive (field : String) (n : UInt64) : Except Defect Unit :=
  if n = 0 then .error (.zero field) else .ok ()

/-- Whether the settings can be used; the first defect is reported. -/
def check (s : Settings) : Except Defect Unit := do
  checkPositive "history.max_data_points" s.history.maxDataPoints
  checkPositive "history.max_events" s.history.maxEvents
  checkPositive "channel.connect_timeout_ms" s.channel.connectTimeout
  checkUrl "channel.url" s.channel.url ["ws", "wss"]
  checkUrl "control.api_url" s.control.apiUrl ["http", "https"]

/-- The settings, if they can be used. -/
def checked (s : Settings) : Except Failure Settings :=
  match s.check with
  | .ok () => .ok s
  | .error d => .error (.configuration d.message)

example : standard.check.toOption = some () := by decide +kernel

example : ({ standard with history := { maxEvents := 0 } } : Settings).checked.toOption = none := by
  decide +kernel

end Settings
end LiveTelemetry
