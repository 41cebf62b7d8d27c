import LiveTelemetry.Proofs.Reading.History

/-!
What is known of a device besides its metrics. Main statement: after any operations, each aspect of
a device is the last one that was told since the store was cleared; samples do not touch it, and it
touches no sample.
-/
namespace LiveTelemetry

/-- What messages may say about their device. -/
inductive Aspect where
  | displayName
  | deviceType
  | vendor

namespace Aspect

/-- The field of a message that says it. -/
def field : Aspect → String
  | displayName => "device_name"
  | deviceType => "device_type"
  | vendor => "vendor"

def ofMeta : Aspect → DeviceMeta → Option String
  | displayName => DeviceMeta.displayName
  | deviceType => DeviceMeta.deviceType
  | vendor => DeviceMeta.vendor

def ofDevice : Aspect → Device → Option String
  | displayName => Device.displayName
  | deviceType => Device.deviceType
  | vendor => Device.vendor

@[simp] lemma ofDevice_unknown (a : Aspect) (id : DeviceId) :
    a.ofDevice (.unknown id) = none := by
  cases a <;> rfl

/-- What is not said stays as it was. -/
@[simp] lemma ofDevice_annotate (a : Aspect) (info : DeviceMeta) (d : Device) :
    a.ofDevice (d.annotate info) = (a.ofMeta info).or (a.ofDevice d) := by
  cases a <;> rfl

@[simp] lemma ofDevice_metrics (a : Aspect) (d : Device) (metrics : Table (List Sample)) :
    a.ofDevice { d with metrics } = a.ofDevice d := by
  cases a <;> rfl

end Aspect

namespace Store

/-- An aspect of a device, if it is known. -/
def aspect (a : Aspect) (id : String) (s : Store) : Option String := (s.device id).bind a.ofDevice

/-- What an operation says about an aspect of a device. -/
def Operation.told? (a : Aspect) (id : String) : Operation → Option String
  | annotate d info => if d.text = id then a.ofMeta info else none
  | _ => none

/-- What was said about an aspect of a device since the store was last cleared. -/
def told (a : Aspect) (id : String) (ops : List Operation) : List String :=
  (sinceClear ops).filterMap (Operation.told? a id)

variable {s : Store} {a : Aspect} {id : String}

lemma ofDevice_deviceOrUnknown (d : DeviceId) :
    a.ofDevice (s.deviceOrUnknown d) = s.aspect a d.text := by
  unfold deviceOrUnknown aspect device
  cases Table.lookup d.text s.devices with
  | none => exact a.ofDevice_unknown d
  | some d => rfl

lemma device_put (key : String) (d : Device) :
    device id { s with devices := Table.put key d s.devices } =
      if id = key then some d else s.device id :=
  Table.lookup_put key id d s.devices

lemma aspect_put (key : String) (d : Device) :
    aspect a id { s with devices := Table.put key d s.devices } =
      if id = key then a.ofDevice d else s.aspect a id := by
  rw [aspect, device_put]
  split_ifs <;> rfl

lemma aspect_annotate (d : DeviceId) (info : DeviceMeta) :
    (s.annotate d info).aspect a id =
      if d.text = id then (a.ofMeta info).or (s.aspect a id) else s.aspect a id := by
  rw [annotate, aspect_put, Aspect.ofDevice_annotate, ofDevice_deviceOrUnknown]
  by_cases h : d.text = id
  · rw [if_pos h.symm, if_pos h, h]
  · rw [if_neg (Ne.symm h), if_neg h]

@[simp] lemma aspect_ingest (d : DeviceId) (x : Sample) :
    (s.ingest d x).1.aspect a id = s.aspect a id := by
  -- The device is put back with at most another history, whether or not the sample is stored.
  have hput : ∀ d' : Device, a.ofDevice d' = s.aspect a d.text →
      aspect a id { s with devices := Table.put d.text d' s.devices } = s.aspect a id := by
    intro d' hd'
    rw [aspect_put, hd']
    split_ifs with h
    · rw [h]
    · rfl
  unfold ingest
  dsimp only
  split
  · exact hput _ (ofDevice_deviceOrUnknown d)
  · exact hput _ ((a.ofDevice_metrics _ _).trans (ofDevice_deviceOrUnknown d))

lemma device_annotate_of_ne {d : DeviceId} (h : id ≠ d.text) (info : DeviceMeta) :
    (s.annotate d info).device id = s.device id := by
  rw [annotate, device_put, if_neg h]

lemma device_ingest_of_ne {d : DeviceId} (h : id ≠ d.text) (x : Sample) :
    (s.ingest d x).1.device id = s.device id := by
  unfold ingest
  dsimp only
  split <;> rw [device_put, if_neg h]

lemma told_push (ops : List Operation) (op : Operation) :
    told a id (ops ++ [op]) =
      if op.isClear then [] else told a id ops ++ (op.told? a id).toList := by
  rw [told, sinceClear_push]
  split_ifs
  · rfl
  · cases ho : op.told? a id <;> simp [told, ho]

lemma getLast?_append_toList {α : Type} (xs : List α) (x : Option α) :
    (xs ++ x.toList).getLast? = x.or xs.getLast? := by
  cases x <;> simp

/-- An aspect of a device is the last one that was told since the store was cleared. -/
theorem aspect_performAll (n : Nat) (ops : List Operation) (a : Aspect) (id : String) :
    ((Store.new n).performAll ops).aspect a id = (told a id ops).getLast? := by
  induction ops using List.reverseRecOn with
  | nil => rfl
  | append_singleton ops op ih =>
    rw [performAll_push, told_push]
    cases op with
    | clear => rfl
    | ingest d x => simp [perform, Operation.isClear, Operation.told?, ih]
    | annotate d info =>
      have hclear : (Operation.annotate d info).isClear = false := rfl
      rw [perform, aspect_annotate, ih, hclear, if_neg Bool.false_ne_true,
        getLast?_append_toList, Operation.told?]
      split_ifs <;> rfl

/-- Histories and aspects of devices are kept apart, and so are devices. -/
structure KeepsApart (s : Store) : Prop where
  histories : ∀ d info id metric, (s.annotate d info).get id metric = s.get id metric
  aspects : ∀ d x a id, (s.ingest d x).1.aspect a id = s.aspect a id
  annotated : ∀ d info id, id ≠ d.text → (s.annotate d info).device id = s.device id
  ingested : ∀ d x id, id ≠ d.text → (s.ingest d x).1.device id = s.device id

lemma keepsApart (s : Store) : s.KeepsApart where
  histories _ _ _ _ := get_annotate _ _
  aspects _ _ _ _ := aspect_ingest _ _
  annotated _ info _ h := device_annotate_of_ne h info
  ingested _ x _ h := device_ingest_of_ne h x

end Store
end LiveTelemetry
