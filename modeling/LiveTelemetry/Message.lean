import LiveTelemetry.Json.Reader
import LiveTelemetry.Link.Event
import LiveTelemetry.Reading.Device
import LiveTelemetry.Schema.OfJson

/-!
Inbound messages. A message is a JSON object; it tells of a link event when its field `event`
names a transition, and of a sample of a metric otherwise.
-/
namespace LiveTelemetry

/-- A sample with the device that it comes from and what is said about that device. -/
structure MetricMessage where
  device : DeviceId
  sample : Sample
  info : DeviceMeta

inductive Message where
  | metric (m : MetricMessage)
  | link (e : LinkEvent)

namespace Message

/-- Why a text is no message. -/
inductive Refusal where
  | oversized
  | blank
  | notJson (f : Json.Fault)
  | notObject
  | noRouter
  | malformedLink (m : Mismatch)
  | blankRouter
  | malformedMetric (m : Mismatch)
  | noDevice
  | nameLength
  | nameControl
  deriving DecidableEq

/-- The greatest size of a message in octets. -/
def sizeLimit : Nat := 65536

/-- The greatest size of the name of a metric in octets. -/
def nameLimit : Nat := 256

def Refusal.message : Refusal → String
  | oversized => s!"Message exceeds maximum size of {sizeLimit} bytes"
  | blank => "Empty message"
  | notJson f => "Invalid JSON: " ++ f.message
  | notObject => "Message is not a JSON object"
  | noRouter => "Link event without router_id/device_id"
  | malformedLink m => "Malformed link event: " ++ m.describe Json.wording
  | blankRouter => "Link event with empty router_id"
  | malformedMetric m => "Malformed metric message: " ++ m.describe Json.wording
  | noDevice => "Metric message without device_id/router_id"
  | nameLength => "Invalid metric name length"
  | nameControl => "Metric name contains control characters"

def Refusal.toFailure (r : Refusal) : Failure := .protocol r.message

def checkText (raw : String) : Except Refusal Unit :=
  if sizeLimit < raw.utf8ByteSize then .error .oversized
  else if Text.isBlank raw then .error .blank
  else .ok ()

def checkMetricName (name : String) : Except Refusal Unit :=
  if Text.isBlank name ∨ nameLimit < name.utf8ByteSize then .error .nameLength
  else if name.toList.any Text.isControlChar then .error .nameControl
  else .ok ()

/-- The transition that an object names. -/
def transition? (fields : Table Json) : Option Transition :=
  (Table.lookup "event" fields).bind fun v => v.text?.bind Transition.ofTag?

/-- Whether a field is there and not null. -/
def isPresent (name : String) (fields : Table Json) : Bool :=
  match Table.lookup name fields with
  | none => false
  | some .null => false
  | some _ => true

/-- The fields of a link event, whose router may go under the name of a device. -/
def linkFields (fields : Table Json) : Except Refusal (Table Json) :=
  if isPresent "router_id" fields then .ok fields
  else
    match Table.lookup "device_id" fields with
    | none => .error .noRouter
    | some id => .ok (Table.put "router_id" id (Table.remove "device_id" fields))

def parseLink (fields : Table Json) : Except Refusal LinkEvent :=
  match linkFields fields with
  | .error r => .error r
  | .ok fields =>
    match LinkEvent.codec.ofJson (.object fields) with
    | .error m => .error (.malformedLink m)
    | .ok e => if e.router.isBlank then .error .blankRouter else .ok e

/-- A sample as it stands in a message. -/
structure Report where
  device : Option String
  router : Option String
  metric : String
  value : Measurement
  timestamp : Option String
  info : DeviceMeta

namespace Report

def schema : Schema :=
  .record "RawMetric"
    [Schema.required "device_id" (.optional .text), Schema.required "router_id" (.optional .text),
      Schema.required "metric" .text, Schema.required "value" .measurement,
      Schema.required "timestamp" (.optional .text),
      Schema.required "device_name" (.optional .text),
      Schema.required "device_type" (.optional .text), Schema.required "vendor" (.optional .text)]

def ofDatum? : Datum → Option Report
  | .record [(_, device), (_, router), (_, metric), (_, .measurement value), (_, timestamp),
      (_, name), (_, type), (_, vendor)] => do
    return ⟨← device.optional? Datum.text?, ← router.optional? Datum.text?, ← metric.text?, value,
      ← timestamp.optional? Datum.text?, ← name.optional? Datum.text?,
      ← type.optional? Datum.text?, ← vendor.optional? Datum.text?⟩
  | _ => none

def ofFields (fields : Table Json) : Except Mismatch Report :=
  match schema.ofJson (.object fields) with
  | .error m => .error m
  | .ok d => match ofDatum? d with
    | some r => .ok r
    | none => .error (.other "unreadable")

end Report

/-- A text that is there and not blank. -/
def nonBlank (s : Option String) : Option String := s.filter fun s => !Text.isBlank s

/-- `clock` is the time that stands for one that is missing. -/
def parseMetric (clock : String) (fields : Table Json) : Except Refusal MetricMessage :=
  match Report.ofFields fields with
  | .error m => .error (.malformedMetric m)
  | .ok r =>
    match (nonBlank r.device).or (nonBlank r.router) with
    | none => .error .noDevice
    | some id =>
      match checkMetricName r.metric with
      | .error r => .error r
      | .ok () =>
        .ok ⟨⟨id⟩, ⟨r.metric, r.value, (nonBlank r.timestamp).getD clock⟩, r.info⟩

/-- Reads a message; `clock` is the time at which it is read. -/
def parse (clock : String) (raw : String) : Except Refusal Message :=
  match checkText raw with
  | .error r => .error r
  | .ok () =>
    match Json.parse raw with
    | .error f => .error (.notJson f)
    | .ok (.object fields) =>
      if (transition? fields).isSome then (parseLink fields).map link
      else (parseMetric clock fields).map metric
    | .ok _ => .error .notObject

def device : Message → DeviceId
  | metric m => m.device
  | link e => e.router

end Message
end LiveTelemetry
