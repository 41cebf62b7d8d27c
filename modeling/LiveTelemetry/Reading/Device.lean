import LiveTelemetry.DeviceId
import LiveTelemetry.Reading.Sample

/-!
What is known of one device: its metadata and the history of each of its metrics.
-/
namespace LiveTelemetry

structure Device where
  id : DeviceId
  displayName : Option String
  deviceType : Option String
  vendor : Option String
  /-- Samples by metric, oldest first. -/
  metrics : Table (List Sample)

namespace Device

def unknown (id : DeviceId) : Device := ⟨id, none, none, none, []⟩

/-- Takes over the fields that are present. -/
def annotate (info : DeviceMeta) (d : Device) : Device :=
  { d with
    displayName := info.displayName.or d.displayName
    deviceType := info.deviceType.or d.deviceType
    vendor := info.vendor.or d.vendor }

def history (metric : String) (d : Device) : List Sample := (Table.lookup metric d.metrics).getD []

/-- The written form of a device, with the time of its last update. -/
def schema : Schema :=
  .record "DeviceState"
    [Schema.required "device_id" .text, Schema.required "display_name" (.optional .text),
      Schema.required "device_type" (.optional .text), Schema.required "vendor" (.optional .text),
      Schema.required "metrics" (.table (.series Sample.schema)),
      Schema.required "last_update" .instant]

@[simp] theorem history_annotate (info : DeviceMeta) (d : Device) (metric : String) :
    (d.annotate info).history metric = d.history metric := rfl

end Device
end LiveTelemetry
