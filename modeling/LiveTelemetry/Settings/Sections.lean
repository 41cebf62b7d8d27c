import LiveTelemetry.Credential
import LiveTelemetry.Schema.Basic

/-!
The sections of the settings. Every field has a default, so that each section may be left out.
-/
namespace LiveTelemetry

structure ChannelSettings where
  url : String := "ws://localhost:8000/ws/telemetry"
  /-- Stands for the vendor where a connection names none. -/
  vendor : String := "generic"
  reconnectInterval : UInt64 := 5000
  autoReconnect : Bool := true
  connectTimeout : UInt64 := 10000
  deriving DecidableEq

namespace ChannelSettings

def toDatum (s : ChannelSettings) : Datum :=
  .record [("url", .text s.url), ("vendor", .text s.vendor),
    ("reconnect_interval_ms", .ofUInt64 s.reconnectInterval),
    ("auto_reconnect", .flag s.autoReconnect),
    ("connect_timeout_ms", .ofUInt64 s.connectTimeout)]

def standard : ChannelSettings := {}

def codec : Codec ChannelSettings where
  schema := .record "ChannelConfig"
    [Schema.withDefault "url" .text (.text standard.url),
      Schema.withDefault "vendor" .text (.text standard.vendor),
      Schema.withDefault "reconnect_interval_ms" .uint64 (.ofUInt64 standard.reconnectInterval),
      Schema.withDefault "auto_reconnect" .flag (.flag standard.autoReconnect),
      Schema.withDefault "connect_timeout_ms" .uint64 (.ofUInt64 standard.connectTimeout)]
  toDatum := toDatum
  ofDatum?
    | .record [(_, a), (_, b), (_, c), (_, d), (_, e)] => do
      return ⟨← a.text?, ← b.text?, ← c.uint64?, ← d.flag?, ← e.uint64?⟩
    | _ => none

/-- The time after which a lost channel is opened again, in milliseconds. -/
def reconnectMilliseconds (s : ChannelSettings) : Nat := s.reconnectInterval.toNat

def timeoutMilliseconds (s : ChannelSettings) : Nat := s.connectTimeout.toNat

end ChannelSettings

structure ControlSettings where
  apiUrl : String := "http://localhost:8000/api"
  requestTimeout : UInt64 := 15
  deriving DecidableEq

namespace ControlSettings

def standard : ControlSettings := {}

def toDatum (s : ControlSettings) : Datum :=
  .record [("api_url", .text s.apiUrl), ("request_timeout_seconds", .ofUInt64 s.requestTimeout)]

def codec : Codec ControlSettings where
  schema := .record "ControlConfig"
    [Schema.withDefault "api_url" .text (.text standard.apiUrl),
      Schema.withDefault "request_timeout_seconds" .uint64 (.ofUInt64 standard.requestTimeout)]
  toDatum := toDatum
  ofDatum?
    | .record [(_, a), (_, b)] => do return ⟨← a.text?, ← b.uint64?⟩
    | _ => none

/-- The time that a request may take, in milliseconds. -/
def timeoutMilliseconds (s : ControlSettings) : Nat := s.requestTimeout.toNat * 1000

end ControlSettings

structure HistorySettings where
  maxDataPoints : UInt64 := 50
  maxEvents : UInt64 := 100
  notificationsEnabled : Bool := true
  notificationWindow : UInt64 := 30000
  deriving DecidableEq

namespace HistorySettings

def standard : HistorySettings := {}

def toDatum (s : HistorySettings) : Datum :=
  .record [("max_data_points", .ofUInt64 s.maxDataPoints), ("max_events", .ofUInt64 s.maxEvents),
    ("notifications_enabled", .flag s.notificationsEnabled),
    ("notification_window_ms", .ofUInt64 s.notificationWindow)]

def codec : Codec HistorySettings where
  schema := .record "HistoryConfig"
    [Schema.withDefault "max_data_points" .size (.ofUInt64 standard.maxDataPoints),
      Schema.withDefault "max_events" .size (.ofUInt64 standard.maxEvents),
      Schema.withDefault "notifications_enabled" .flag (.flag standard.notificationsEnabled),
      Schema.withDefault "notification_window_ms" .uint64 (.ofUInt64 standard.notificationWindow)]
  toDatum := toDatum
  ofDatum?
    | .record [(_, a), (_, b), (_, c), (_, d)] => do
      return ⟨← a.uint64?, ← b.uint64?, ← c.flag?, ← d.uint64?⟩
    | _ => none

end HistorySettings

structure AuthSettings where
  token : Option String := none
  deriving DecidableEq

namespace AuthSettings

def standard : AuthSettings := {}

def toDatum (s : AuthSettings) : Datum := .record [("token", .ofOptionText s.token)]

def codec : Codec AuthSettings where
  schema := .record "AuthConfig" [Schema.withDefault "token" (.optional .text) .absent]
  toDatum := toDatum
  ofDatum?
    | .record [(_, a)] => (a.optional? Datum.text?).map AuthSettings.mk
    | _ => none

/-- The slot that the configured token fills; a blank token fills none. -/
def credentialSlot (s : AuthSettings) : CredentialSlot := .ofToken s.token

def diagnostic (s : AuthSettings) : String :=
  let token := match s.token with
    | none => "None"
    | some _ => "Some(\x22***\x22)"
  "AuthConfig \x7b token: " ++ token ++ " \x7d"

end AuthSettings

inductive LogFormat where
  | pretty
  | json
  deriving DecidableEq

namespace LogFormat

def name : LogFormat → String
  | pretty => "pretty"
  | json => "json"

def ofName? : String → Option LogFormat
  | "pretty" => some pretty
  | "json" => some json
  | _ => none

def codec : Codec LogFormat where
  schema := .choice "LogFormat" [pretty.name, json.name]
  toDatum f := .choice f.name
  ofDatum?
    | .choice tag => ofName? tag
    | _ => none

@[simp] theorem ofName?_name (f : LogFormat) : ofName? f.name = some f := by
  cases f <;> rfl

end LogFormat

structure LoggingSettings where
  level : String := "info"
  format : LogFormat := .pretty
  deriving DecidableEq

namespace LoggingSettings

def standard : LoggingSettings := {}

def toDatum (s : LoggingSettings) : Datum :=
  .record [("level", .text s.level), ("format", LogFormat.codec.toDatum s.format)]

def codec : Codec LoggingSettings where
  schema := .record "LoggingConfig"
    [Schema.withDefault "level" .text (.text standard.level),
      Schema.withDefault "format" LogFormat.codec.schema (LogFormat.codec.toDatum standard.format)]
  toDatum := toDatum
  ofDatum?
    | .record [(_, a), (_, b)] => do return ⟨← a.text?, ← LogFormat.codec.ofDatum? b⟩
    | _ => none

end LoggingSettings
end LiveTelemetry
