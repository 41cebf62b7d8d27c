import LiveTelemetry.Proofs.Reading.History
import LiveTelemetry.Proofs.Table
import LiveTelemetry.Proofs.Text.OctetOrder

/-!
What a store shows. Main statement: after any operations all ways to read a store agree. Its devices
are those that something was told of since it was last cleared, each under its own identifier, and
its metrics are those with a history.
-/
namespace LiveTelemetry

/-! ### Devices -/

namespace Device

/-- The metrics are in order, and each has samples of its own and no others. -/
structure IsOrderly (d : Device) : Prop where
  sorted : Table.Sorted d.metrics
  held : ∀ e ∈ d.metrics, e.2 ≠ [] ∧ ∀ x ∈ e.2, x.metric = e.1

variable {d : Device} {metric : String}

lemma isOrderly_unknown (id : DeviceId) : (unknown id).IsOrderly :=
  ⟨Table.sorted_nil, fun _ h => absurd h List.not_mem_nil⟩

lemma IsOrderly.annotate (h : d.IsOrderly) (info : DeviceMeta) : (d.annotate info).IsOrderly :=
  ⟨h.sorted, h.held⟩

lemma mem_metrics_of_mem_history {x : Sample} (h : x ∈ d.history metric) :
    (metric, d.history metric) ∈ d.metrics := by
  unfold history at h ⊢
  cases hl : Table.lookup metric d.metrics with
  | none => simp [hl] at h
  | some xs => exact Table.mem_of_lookup hl

lemma IsOrderly.metric_of_mem_history (h : d.IsOrderly) {x : Sample} (hx : x ∈ d.history metric) :
    x.metric = metric :=
  (h.held _ (mem_metrics_of_mem_history hx)).2 x hx

/-- A device knows the metrics with a history, and no others. -/
lemma IsOrderly.mem_keys_metrics_iff (h : d.IsOrderly) :
    metric ∈ Table.keys d.metrics ↔ d.history metric ≠ [] := by
  rw [← Table.lookup_isSome_iff]
  unfold history
  cases hl : Table.lookup metric d.metrics with
  | none => simp
  | some xs => simpa using (h.held _ (Table.mem_of_lookup hl)).1

lemma IsOrderly.put (h : d.IsOrderly) {xs : List Sample} (hne : xs ≠ [])
    (hxs : ∀ x ∈ xs, x.metric = metric) :
    IsOrderly { d with metrics := Table.put metric xs d.metrics } := by
  refine ⟨h.sorted.put _ _, fun e he => ?_⟩
  rcases Table.mem_put he with rfl | he
  · exact ⟨hne, hxs⟩
  · exact h.held e he

end Device

namespace Store

/-! ### Stores -/

lemma newest_ne_nil {α : Type} {n : Nat} (hn : 0 < n) (xs : List α) (x : α) :
    newest n (xs ++ [x]) ≠ [] := by
  apply List.ne_nil_of_length_pos
  rw [length_newest, List.length_append, List.length_singleton]
  omega

/-- There is room for a sample, and the devices are in order and go under their own identifiers. -/
structure IsOrderly (s : Store) : Prop where
  room : 0 < s.capacity
  sorted : Table.Sorted s.devices
  keyed : ∀ e ∈ s.devices, e.2.id.text = e.1
  orderly : ∀ e ∈ s.devices, e.2.IsOrderly

variable {s : Store}

lemma isOrderly_new (n : Nat) : (Store.new n).IsOrderly where
  room := Nat.lt_of_lt_of_le Nat.zero_lt_one (Nat.le_max_right n 1)
  sorted := Table.sorted_nil
  keyed _ h := absurd h List.not_mem_nil
  orderly _ h := absurd h List.not_mem_nil

lemma IsOrderly.put (h : s.IsOrderly) {d : Device} (hd : d.IsOrderly) {id : DeviceId}
    (hid : d.id = id) : IsOrderly { s with devices := Table.put id.text d s.devices } where
  room := h.room
  sorted := h.sorted.put _ _
  keyed e he := by
    rcases Table.mem_put he with rfl | he
    · rw [hid]
    · exact h.keyed e he
  orderly e he := by
    rcases Table.mem_put he with rfl | he
    · exact hd
    · exact h.orderly e he

lemma IsOrderly.deviceOrUnknown (h : s.IsOrderly) (id : DeviceId) :
    (s.deviceOrUnknown id).IsOrderly ∧ (s.deviceOrUnknown id).id = id := by
  unfold Store.deviceOrUnknown
  cases hl : Table.lookup id.text s.devices with
  | none => exact ⟨Device.isOrderly_unknown id, rfl⟩
  | some d =>
    have hmem := Table.mem_of_lookup hl
    exact ⟨h.orderly _ hmem, congrArg DeviceId.mk (h.keyed _ hmem)⟩

lemma IsOrderly.ingest (h : s.IsOrderly) (id : DeviceId) (x : Sample) :
    (s.ingest id x).1.IsOrderly := by
  obtain ⟨hd, hid⟩ := h.deviceOrUnknown id
  unfold Store.ingest
  dsimp only
  split
  · exact h.put hd hid
  · refine h.put (hd.put (newest_ne_nil h.room _ _) fun y hy => ?_) hid
    rcases List.mem_append.1 ((newest_sublist _ _).subset hy) with hy | hy
    · exact hd.metric_of_mem_history hy
    · rw [List.mem_singleton.1 hy]

lemma IsOrderly.perform (h : s.IsOrderly) (op : Operation) : (s.perform op).IsOrderly := by
  cases op with
  | ingest id x => exact h.ingest id x
  | annotate id info =>
    obtain ⟨hd, hid⟩ := h.deviceOrUnknown id
    exact h.put (hd.annotate info) hid
  | clear =>
    exact ⟨h.room, Table.sorted_nil, fun _ he => absurd he List.not_mem_nil,
      fun _ he => absurd he List.not_mem_nil⟩

lemma isOrderly_performAll (n : Nat) (ops : List Operation) :
    ((Store.new n).performAll ops).IsOrderly := by
  induction ops using List.reverseRecOn with
  | nil => exact isOrderly_new n
  | append_singleton ops op ih =>
    rw [performAll_push]
    exact ih.perform op

/-! ### Devices that are known -/

/-- The device that an operation tells something of. -/
def Operation.device? : Operation → Option DeviceId
  | ingest id _ | annotate id _ => some id
  | clear => none

lemma mem_list_iff {id : DeviceId} : id ∈ s.list ↔ id.text ∈ Table.keys s.devices := by
  unfold list
  rw [List.mem_map]
  exact ⟨fun ⟨_, h, he⟩ => he ▸ h, fun h => ⟨_, h, rfl⟩⟩

lemma mem_list_put {key id : DeviceId} {d : Device} :
    id ∈ list { s with devices := Table.put key.text d s.devices } ↔ id ∈ s.list ∨ key = id := by
  rw [mem_list_iff, mem_list_iff, Table.mem_keys_put, DeviceId.text_inj, or_comm, eq_comm]

/-- A sample makes its device known, also if it is not stored. -/
lemma mem_list_ingest {key id : DeviceId} {x : Sample} :
    id ∈ (s.ingest key x).1.list ↔ id ∈ s.list ∨ key = id := by
  unfold ingest
  dsimp only
  split <;> exact mem_list_put

lemma mem_list_perform {id : DeviceId} (op : Operation) :
    id ∈ (s.perform op).list ↔ op.isClear = false ∧ id ∈ s.list ∨ op.device? = some id := by
  cases op with
  | ingest key x => exact mem_list_ingest.trans (by simp [Operation.isClear, Operation.device?])
  | annotate key info => exact mem_list_put.trans (by simp [Operation.isClear, Operation.device?])
  | clear => simp [perform, list, Table.keys, Operation.isClear, Operation.device?]

lemma mem_list_performAll (n : Nat) (ops : List Operation) (id : DeviceId) :
    id ∈ ((Store.new n).performAll ops).list ↔ ∃ op ∈ sinceClear ops, op.device? = some id := by
  induction ops using List.reverseRecOn with
  | nil => simp [performAll, new, list, Table.keys, sinceClear]
  | append_singleton ops op ih =>
    rw [performAll_push, mem_list_perform, ih, sinceClear_push]
    cases hop : op.isClear with
    | true =>
      cases op with
      | clear => simp [Operation.device?]
      | _ => cases hop
    | false => simp [or_and_right, exists_or]

/-! ### Ways to read a store -/

lemma pairwise_encode {ks : List String} (h : ks.Pairwise (· < ·)) :
    (ks.map Text.Utf8.encode).Pairwise (· < ·) :=
  List.pairwise_map.2 (h.imp fun hlt => (Text.Utf8.encode_lt_encode_iff _ _).2 hlt)

lemma IsOrderly.of_device (h : s.IsOrderly) {id : String} {d : Device}
    (hd : s.device id = some d) : d.id.text = id ∧ d.IsOrderly := by
  have hmem := Table.mem_of_lookup hd
  exact ⟨h.keyed _ hmem, h.orderly _ hmem⟩

lemma IsOrderly.map_id_all (h : s.IsOrderly) : s.all.map Device.id = s.list := by
  unfold all list Table.keys
  rw [List.map_map, List.map_map]
  apply List.map_congr_left
  intro e he
  exact congrArg DeviceId.mk (h.keyed e he)

lemma IsOrderly.mem_all_iff (h : s.IsOrderly) {d : Device} :
    d ∈ s.all ↔ s.device d.id.text = some d := by
  unfold all device
  rw [List.mem_map]
  constructor
  · rintro ⟨⟨key, d⟩, he, rfl⟩
    rw [h.keyed _ he]
    exact h.sorted.lookup_of_mem he
  · intro hd
    exact ⟨_, Table.mem_of_lookup hd, rfl⟩

lemma isSome_device_iff {id : DeviceId} : (s.device id.text).isSome = true ↔ id ∈ s.list := by
  rw [mem_list_iff]
  exact Table.lookup_isSome_iff _ _

lemma IsOrderly.mem_metricNames_iff (h : s.IsOrderly) {id metric : String} :
    metric ∈ s.metricNames id ↔ s.get id metric ≠ [] := by
  unfold metricNames get
  cases hd : s.device id with
  | none => simp
  | some d => exact (h.of_device hd).2.mem_keys_metrics_iff

lemma IsOrderly.sorted_metricNames (h : s.IsOrderly) (id : String) :
    (s.metricNames id).Pairwise (· < ·) := by
  unfold metricNames
  cases hd : s.device id with
  | none => exact List.Pairwise.nil
  | some d => exact (h.of_device hd).2.sorted

lemma latest_eq (id metric : String) : s.latest id metric = (s.get id metric).getLast? := by
  unfold latest get
  cases s.device id with
  | none => rfl
  | some d => cases hl : Table.lookup metric d.metrics <;> simp [Device.history, hl]

/-- What a store shows fits together, and fits what was done with it. -/
structure Coherent (s : Store) (ops : List Operation) : Prop where
  /-- Devices go under their own identifiers. -/
  keyed : ∀ e ∈ s.devices, e.2.id.text = e.1
  /-- No history is kept that is empty, and each is of the metric that it goes under. -/
  held : ∀ e ∈ s.devices, ∀ f ∈ e.2.metrics, f.2 ≠ [] ∧ ∀ x ∈ f.2, x.metric = f.1
  /-- A store knows the devices that it was told of since it was last cleared. -/
  listed : ∀ id, id ∈ s.list ↔ ∃ op ∈ sinceClear ops, op.device? = some id
  /-- By their octets, and so none is listed twice. -/
  listAscends : (s.list.map fun id => Text.Utf8.encode id.text).Pairwise (· < ·)
  counted : s.count = s.list.length
  all : (s.all.map Device.id).Perm s.list
  snapshots : ∀ d, d ∈ s.all ↔ s.device d.id.text = some d
  present : ∀ id : DeviceId, (s.device id.text).isSome = true ↔ id ∈ s.list
  named : ∀ id metric, metric ∈ s.metricNames id ↔ s.get id metric ≠ []
  namesAscend : ∀ id, ((s.metricNames id).map Text.Utf8.encode).Pairwise (· < ·)
  latest : ∀ id metric, s.latest id metric = (s.get id metric).getLast? ∧
    (s.latest id metric = none ↔ s.get id metric = [])

/-- After any operations all ways to read a store agree. -/
theorem accessors_coherent (n : Nat) (ops : List Operation) :
    ((Store.new n).performAll ops).Coherent ops := by
  have h := isOrderly_performAll n ops
  exact {
    keyed := h.keyed
    held := fun e he => (h.orderly e he).held
    listed := mem_list_performAll n ops
    listAscends := by
      have hkeys := pairwise_encode h.sorted
      rw [list, List.map_map]
      exact hkeys
    counted := by simp [count, list, Table.keys]
    all := .of_eq h.map_id_all
    snapshots := fun _ => h.mem_all_iff
    present := fun _ => isSome_device_iff
    named := fun _ _ => h.mem_metricNames_iff
    namesAscend := fun id => pairwise_encode (h.sorted_metricNames id)
    latest := fun id metric => by
      rw [latest_eq]
      exact ⟨rfl, List.getLast?_eq_none_iff⟩ }

/-- A device of which nothing but the name is known is listed, without metrics. -/
example :
    let s := (Store.new 2).performAll
      [.ingest ⟨"r2"⟩ ⟨"load", .text "low", "t"⟩, .annotate ⟨"r1"⟩ ⟨some "core", none, none⟩]
    s.list = [⟨"r1"⟩, ⟨"r2"⟩] ∧ s.metricNames "r1" = [] ∧ s.metricNames "r2" = ["load"] := by
  decide +kernel

end Store
end LiveTelemetry
