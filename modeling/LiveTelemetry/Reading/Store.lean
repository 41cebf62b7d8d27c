import LiveTelemetry.Reading.Device

/-!
The bounded store of readings. A sample that repeats a reading of the same metric still held is not
stored again; beyond the capacity the oldest sample of the metric is dropped.
-/
namespace LiveTelemetry

structure Store where
  capacity : Nat
  devices : Table Device

namespace Store

/-- A store for `n` samples per device and metric, but at least one. -/
def new (n : Nat) : Store := ⟨max n 1, []⟩

/-- The capacity of a store that nobody asked for more or less. -/
def standard : Store := new 50

/-- The newest `n` items of a list that starts with the oldest. -/
def newest {α : Type} (n : Nat) (xs : List α) : List α := xs.drop (xs.length - n)

def deviceOrUnknown (id : DeviceId) (s : Store) : Device :=
  (Table.lookup id.text s.devices).getD (.unknown id)

/-- Stores a sample, and says whether it was new. -/
def ingest (id : DeviceId) (sample : Sample) (s : Store) : Store × Bool :=
  let d := s.deviceOrUnknown id
  let samples := d.history sample.metric
  if samples.any (·.sameReading sample) then
    ({ s with devices := Table.put id.text d s.devices }, false)
  else
    let d := { d with
      metrics := Table.put sample.metric (newest s.capacity (samples ++ [sample])) d.metrics }
    ({ s with devices := Table.put id.text d s.devices }, true)

def annotate (id : DeviceId) (info : DeviceMeta) (s : Store) : Store :=
  { s with devices := Table.put id.text ((s.deviceOrUnknown id).annotate info) s.devices }

def device (id : String) (s : Store) : Option Device := Table.lookup id s.devices

def get (id metric : String) (s : Store) : List Sample :=
  match s.device id with
  | none => []
  | some d => d.history metric

def latest (id metric : String) (s : Store) : Option Sample :=
  (s.device id).bind fun d => (Table.lookup metric d.metrics).bind List.getLast?

def metricNames (id : String) (s : Store) : List String :=
  match s.device id with
  | none => []
  | some d => Table.keys d.metrics

def list (s : Store) : List DeviceId := (Table.keys s.devices).map DeviceId.mk

def all (s : Store) : List Device := s.devices.map Prod.snd

def count (s : Store) : Nat := s.devices.length

def clear (s : Store) : Store := { s with devices := [] }

theorem length_newest {α : Type} (n : Nat) (xs : List α) :
    (newest n xs).length = min n xs.length := by
  simp [newest]
  omega

@[simp] theorem clear_devices (s : Store) : s.clear.devices = [] := rfl

@[simp] theorem capacity_ingest (id : DeviceId) (sample : Sample) (s : Store) :
    (s.ingest id sample).1.capacity = s.capacity := by
  unfold ingest
  dsimp only
  split <;> rfl

@[simp] theorem capacity_annotate (id : DeviceId) (info : DeviceMeta) (s : Store) :
    (s.annotate id info).capacity = s.capacity := rfl

end Store
end LiveTelemetry
