import LiveTelemetry.Proofs.Reading.Equality
import LiveTelemetry.Reading.Store
import Mathlib.Data.List.Induction
import Mathlib.Tactic.Common

/-!
Histories of metrics. Main statement: whatever is done with a store, the history of a metric is
the newest part of those of its samples that counted since the store was last cleared, where a
sample counts unless it repeats one of the newest that counted before it.
-/
namespace LiveTelemetry.Store

/-- What can be done with a store. -/
inductive Operation where
  | ingest (id : DeviceId) (sample : Sample)
  | annotate (id : DeviceId) (info : DeviceMeta)
  | clear

namespace Operation

def isClear : Operation → Bool
  | clear => true
  | _ => false

/-- The sample that an operation brings for a metric of a device. -/
def sampleOf? (id metric : String) : Operation → Option Sample
  | ingest d x => if d.text = id ∧ x.metric = metric then some x else none
  | _ => none

end Operation

def perform (s : Store) : Operation → Store
  | .ingest id x => (s.ingest id x).1
  | .annotate id info => s.annotate id info
  | .clear => s.clear

def performAll (s : Store) (ops : List Operation) : Store := ops.foldl perform s

/-- The operations behind the last one that clears the store. -/
def sinceClear (ops : List Operation) : List Operation :=
  (ops.reverse.takeWhile fun op => !op.isClear).reverse

/-- The samples of a metric that came since the store was last cleared, in the order of arrival. -/
def samplesOf (id metric : String) (ops : List Operation) : List Sample :=
  (sinceClear ops).filterMap (Operation.sampleOf? id metric)

/-- Counts a sample unless it repeats one of the last `n` that counted before. -/
def accept (n : Nat) (xs : List Sample) (x : Sample) : List Sample :=
  if (newest n xs).any (·.sameReading x) then xs else xs ++ [x]

/-- The samples that count, among samples of one metric in the order of arrival. -/
def accepted (n : Nat) (xs : List Sample) : List Sample := xs.foldl (accept n) []

lemma newest_eq_reverse {α : Type} (n : Nat) (xs : List α) :
    newest n xs = (xs.reverse.take n).reverse := by
  rw [List.take_reverse, List.reverse_reverse, newest]

lemma newest_append {α : Type} (n : Nat) (xs : List α) (x : α) :
    newest n (newest n xs ++ [x]) = newest n (xs ++ [x]) := by
  cases n <;> simp [newest_eq_reverse, List.take_take]

lemma newest_sublist {α : Type} (n : Nat) (xs : List α) : (newest n xs).Sublist xs :=
  List.drop_sublist _ _

variable {s : Store} {id metric : String}

@[simp] lemma history_deviceOrUnknown (d : DeviceId) :
    (s.deviceOrUnknown d).history metric = s.get d.text metric := by
  unfold deviceOrUnknown get device
  cases Table.lookup d.text s.devices <;> rfl

/-- Replacing a device touches no other one. -/
lemma get_put (key : String) (d : Device) :
    get id metric { s with devices := Table.put key d s.devices } =
      if id = key then d.history metric else s.get id metric := by
  unfold get device
  dsimp only
  rw [Table.lookup_put]
  split_ifs <;> rfl

lemma history_put (key : String) (xs : List Sample) (d : Device) :
    Device.history metric { d with metrics := Table.put key xs d.metrics } =
      if metric = key then xs else d.history metric := by
  unfold Device.history
  rw [Table.lookup_put]
  split_ifs <;> rfl

@[simp] lemma get_clear : s.clear.get id metric = [] := rfl

@[simp] lemma get_annotate (d : DeviceId) (info : DeviceMeta) :
    (s.annotate d info).get id metric = s.get id metric := by
  rw [annotate, get_put]
  split_ifs with h
  · rw [h, Device.history_annotate, history_deviceOrUnknown]
  · rfl

lemma ingest_snd (d : DeviceId) (x : Sample) :
    (s.ingest d x).2 = !(s.get d.text x.metric).any (·.sameReading x) := by
  unfold ingest
  dsimp only
  rw [history_deviceOrUnknown]
  split_ifs with h <;> simp [h]

/-- A sample that repeats none of its history is put at the end of it, and touches no other. -/
lemma get_ingest (d : DeviceId) (x : Sample) :
    (s.ingest d x).1.get id metric =
      if (d.text = id ∧ x.metric = metric) ∧ (s.ingest d x).2 = true then
        newest s.capacity (s.get id metric ++ [x])
      else s.get id metric := by
  rw [ingest_snd]
  unfold ingest
  dsimp only
  rw [history_deviceOrUnknown]
  by_cases hdup : (s.get d.text x.metric).any (·.sameReading x) = true
  · rw [if_pos hdup, get_put, history_deviceOrUnknown]
    split_ifs with hd hc
    · simp [hdup] at hc
    · rw [hd]
    · simp [hdup] at *
    · rfl
  · rw [if_neg hdup, get_put, history_put, history_deviceOrUnknown]
    split_ifs with hd hm hc hc hc
    · rw [hd, hm]
    · exact absurd ⟨⟨hd.symm, hm.symm⟩, by simpa using hdup⟩ hc
    · exact absurd hc.1.2.symm hm
    · rw [hd]
    · exact absurd hc.1.1.symm hd
    · rfl

@[simp] lemma capacity_perform (op : Operation) : (s.perform op).capacity = s.capacity := by
  cases op <;> simp [perform, clear]

@[simp] lemma capacity_performAll (ops : List Operation) :
    (s.performAll ops).capacity = s.capacity := by
  induction ops generalizing s with
  | nil => rfl
  | cons op ops ih => exact ih.trans (capacity_perform op)

lemma performAll_push (ops : List Operation) (op : Operation) :
    s.performAll (ops ++ [op]) = (s.performAll ops).perform op := by
  simp [performAll]

lemma sinceClear_push (ops : List Operation) (op : Operation) :
    sinceClear (ops ++ [op]) = if op.isClear then [] else sinceClear ops ++ [op] := by
  cases h : op.isClear <;> simp [sinceClear, h]

lemma samplesOf_push (ops : List Operation) (op : Operation) :
    samplesOf id metric (ops ++ [op]) =
      if op.isClear then [] else samplesOf id metric ops ++ (op.sampleOf? id metric).toList := by
  rw [samplesOf, sinceClear_push]
  split_ifs
  · rfl
  · cases ho : op.sampleOf? id metric <;> simp [samplesOf, ho]

@[simp] lemma accepted_push (n : Nat) (xs : List Sample) (x : Sample) :
    accepted n (xs ++ [x]) = accept n (accepted n xs) x := by
  simp [accepted]

/-- What one more operation makes of the samples that count. -/
lemma accepted_samplesOf_push (n : Nat) (ops : List Operation) (op : Operation) :
    accepted n (samplesOf id metric (ops ++ [op])) =
      if op.isClear then []
      else (op.sampleOf? id metric).elim (accepted n (samplesOf id metric ops))
        (accept n (accepted n (samplesOf id metric ops))) := by
  rw [samplesOf_push]
  split_ifs
  · rfl
  · cases op.sampleOf? id metric <;> simp

theorem get_performAll (n : Nat) (ops : List Operation) (id metric : String) :
    ((Store.new n).performAll ops).get id metric =
      newest (max n 1) (accepted (max n 1) (samplesOf id metric ops)) := by
  induction ops using List.reverseRecOn with
  | nil => simp [performAll, new, get, device, samplesOf, sinceClear, accepted, newest]
  | append_singleton ops op ih =>
    have hcap : ((Store.new n).performAll ops).capacity = max n 1 := capacity_performAll ops
    rw [performAll_push, accepted_samplesOf_push]
    cases op with
    | clear => simp [perform, Operation.isClear, newest]
    | annotate d info => simp [perform, Operation.isClear, Operation.sampleOf?, ih]
    | ingest d x =>
      rw [perform, get_ingest, ingest_snd, hcap, ih]
      by_cases h : d.text = id ∧ x.metric = metric
      · obtain ⟨rfl, rfl⟩ := h
        simp only [Operation.isClear, Operation.sampleOf?, accept, ih, and_self, true_and, if_true,
          Option.elim_some, Bool.false_eq_true, if_false]
        split_ifs with hnew hdup
        · simp_all
        · exact newest_append _ _ _
        · rfl
        · simp_all
      · simp [Operation.isClear, Operation.sampleOf?, h]

lemma accepted_sublist (n : Nat) (xs : List Sample) : (accepted n xs).Sublist xs := by
  induction xs using List.reverseRecOn with
  | nil => exact .refl _
  | append_singleton xs x ih =>
    rw [accepted_push, accept]
    split_ifs
    · exact ih.trans (List.sublist_append_left _ _)
    · exact ih.append (.refl _)

/-- Two samples of different readings. -/
def Differ (x y : Sample) : Prop := x.sameReading y = false ∧ y.sameReading x = false

lemma pairwise_newest_accepted (n : Nat) (xs : List Sample) :
    (newest n (accepted n xs)).Pairwise Differ := by
  induction xs using List.reverseRecOn with
  | nil => simp [accepted, newest]
  | append_singleton xs x ih =>
    rw [accepted_push, accept]
    split_ifs with h
    · exact ih
    · -- Only the newest samples are compared with the new one, so the others have to go first.
      rw [← newest_append]
      refine List.Pairwise.sublist (newest_sublist n _) ?_
      refine List.pairwise_append.2 ⟨ih, List.pairwise_singleton _ _, ?_⟩
      intro y hy z hz
      obtain rfl := List.mem_singleton.1 hz
      have hyz : y.sameReading z = false := by
        rw [List.any_eq_true] at h
        exact Bool.eq_false_iff.2 fun hs => h ⟨y, hy, hs⟩
      exact ⟨hyz, Sample.sameReading_comm z y ▸ hyz⟩

/-- Histories hold the newest samples that counted, and a sample is stored exactly if it counts. So
a history depends on the samples of its own metric alone, is bounded, keeps the order of arrival and
holds no reading twice. -/
theorem history_exact (n : Nat) (ops : List Operation) :
    let s := (Store.new n).performAll ops
    let counted id metric := accepted (max n 1) (samplesOf id metric ops)
    (∀ id metric, s.get id metric = newest (max n 1) (counted id metric)) ∧
    (∀ id x, (s.ingest id x).2 = true ↔
      ∀ y ∈ newest (max n 1) (counted id.text x.metric), y.sameReading x = false) ∧
    ∀ id metric,
      (s.get id metric).length ≤ max n 1 ∧
      (s.get id metric).Sublist (samplesOf id metric ops) ∧
      (s.get id metric).Pairwise Differ ∧
      ∀ others, samplesOf id metric others = samplesOf id metric ops →
        ((Store.new n).performAll others).get id metric = s.get id metric := by
  intro s counted
  have hget : ∀ id metric, s.get id metric = newest (max n 1) (counted id metric) :=
    get_performAll n ops
  refine ⟨hget, fun id x => ?_, fun id metric => ⟨?_, ?_, ?_, fun others h => ?_⟩⟩
  · simp [ingest_snd, hget]
  · rw [hget, length_newest]
    exact Nat.min_le_left _ _
  · rw [hget]
    exact (newest_sublist _ _).trans (accepted_sublist _ _)
  · rw [hget]
    exact pairwise_newest_accepted _ _
  · rw [get_performAll, h, hget]

end LiveTelemetry.Store
