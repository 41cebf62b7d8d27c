import LiveTelemetry.Schema.Basic

/-!
Samples of metrics, and what messages say about the device they come from.
-/
namespace LiveTelemetry

structure Sample where
  metric : String
  value : Measurement
  timestamp : String

namespace Sample

def schema : Schema :=
  .record "MetricSample"
    [Schema.required "metric" .text, Schema.required "value" .measurement,
      Schema.required "timestamp" .text]

def toDatum (s : Sample) : Datum :=
  .record [("metric", .text s.metric), ("value", .measurement s.value),
    ("timestamp", .text s.timestamp)]

/-- The reading repeats another one when both time and value agree. -/
def sameReading (s t : Sample) : Bool := s.timestamp == t.timestamp && s.value.same t.value

/-- Full equality, with the same notion of equal values. -/
def same (s t : Sample) : Bool := s.metric == t.metric && s.sameReading t

end Sample

/-- What a message says about its device; absent fields say nothing. -/
structure DeviceMeta where
  displayName : Option String
  deviceType : Option String
  vendor : Option String
  deriving DecidableEq

namespace DeviceMeta

def codec : Codec DeviceMeta where
  schema := .record "DeviceMeta"
    [Schema.required "display_name" (.optional .text),
      Schema.required "device_type" (.optional .text),
      Schema.required "vendor" (.optional .text)]
  toDatum m := .record
    [("display_name", .ofOptionText m.displayName), ("device_type", .ofOptionText m.deviceType),
      ("vendor", .ofOptionText m.vendor)]
  ofDatum?
    | .record [(_, a), (_, b), (_, c)] => do
      return ⟨← a.optional? Datum.text?, ← b.optional? Datum.text?, ← c.optional? Datum.text?⟩
    | _ => none

end DeviceMeta
end LiveTelemetry
