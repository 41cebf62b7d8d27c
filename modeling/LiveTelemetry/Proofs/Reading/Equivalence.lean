import LiveTelemetry.Proofs.Message.Definite
import LiveTelemetry.Proofs.Reading.History

/-!
Samples that stand for one another. Main statement: to be of the same reading is an equivalence of
samples without a NaN, and a store gives the same answers whichever of several samples of one reading
it is given.
-/
namespace LiveTelemetry

namespace Sample

/-- The samples without a NaN. -/
abbrev Definite := {x : Sample // x.value.IsDefinite}

/-- Samples of the same readings, one by one. -/
abbrev Match (xs ys : List Sample) : Prop := List.Forall₂ (fun x y => x.sameReading y = true) xs ys

variable {x x' y y' : Sample} {xs ys : List Sample}

lemma sameReading_congr_right (h : y.sameReading y' = true) (x : Sample) :
    x.sameReading y = x.sameReading y' := by
  rw [Bool.eq_iff_iff]
  constructor
  · intro hy
    exact sameReading_trans hy h
  · intro hy'
    exact sameReading_trans hy' (sameReading_symm h)

lemma sameReading_congr (hx : x.sameReading x' = true) (hy : y.sameReading y' = true) :
    x.sameReading y = x'.sameReading y' :=
  calc x.sameReading y = x.sameReading y' := sameReading_congr_right hy x
    _ = y'.sameReading x := sameReading_comm x y'
    _ = y'.sameReading x' := sameReading_congr_right hx y'
    _ = x'.sameReading y' := sameReading_comm y' x'

lemma Match.any_eq (h : Match xs ys) (hxy : x.sameReading y = true) :
    xs.any (·.sameReading x) = ys.any (·.sameReading y) := by
  induction h with
  | nil => rfl
  | cons hab _ ih => rw [List.any_cons, List.any_cons, sameReading_congr hab hxy, ih]

lemma Match.newest_push (h : Match xs ys) (hxy : x.sameReading y = true) (n : Nat) :
    Match (Store.newest n (xs ++ [x])) (Store.newest n (ys ++ [y])) := by
  have hpush : Match (xs ++ [x]) (ys ++ [y]) := List.rel_append h (.cons hxy .nil)
  rw [Store.newest, Store.newest, hpush.length_eq]
  exact List.forall₂_drop _ hpush

end Sample

namespace Store

variable {s t : Store} {x y : Sample} {op op' : Operation} {ops ops' : List Operation}

/-- One sample for another of the same metric and reading makes no difference to the answer. -/
lemma ingest_snd_congr (hmetric : x.metric = y.metric) (hxy : x.sameReading y = true) (s : Store)
    (id : DeviceId) : (s.ingest id x).2 = (s.ingest id y).2 := by
  simp only [ingest_snd, hmetric, Sample.sameReading_congr_right hxy]

/-- Stores that hold samples of the same readings, in the same order. -/
structure Alike (s t : Store) : Prop where
  capacity : s.capacity = t.capacity
  get : ∀ id metric, Sample.Match (s.get id metric) (t.get id metric)

/-- Operations that may bring different samples, but of the same metric and reading. -/
inductive Operation.Alike : Operation → Operation → Prop
  | ingest (id : DeviceId) {x y : Sample} (metric : x.metric = y.metric)
      (reading : x.sameReading y = true) : Alike (.ingest id x) (.ingest id y)
  | annotate (id : DeviceId) (info : DeviceMeta) : Alike (.annotate id info) (.annotate id info)
  | clear : Alike .clear .clear

namespace Alike

lemma ingest_snd (h : s.Alike t) (hmetric : x.metric = y.metric) (hxy : x.sameReading y = true)
    (id : DeviceId) : (s.ingest id x).2 = (t.ingest id y).2 := by
  rw [Store.ingest_snd, Store.ingest_snd, hmetric, (h.get id.text y.metric).any_eq hxy]

lemma ingest (h : s.Alike t) (hmetric : x.metric = y.metric) (hxy : x.sameReading y = true)
    (d : DeviceId) : (s.ingest d x).1.Alike (t.ingest d y).1 where
  capacity := by rw [capacity_ingest, capacity_ingest, h.capacity]
  get id metric := by
    rw [get_ingest, get_ingest, h.ingest_snd hmetric hxy d, hmetric, h.capacity]
    split_ifs
    · exact (h.get id metric).newest_push hxy _
    · exact h.get id metric

lemma perform (h : s.Alike t) (hop : op.Alike op') : (s.perform op).Alike (t.perform op') := by
  cases hop with
  | ingest id hmetric hxy => exact h.ingest hmetric hxy id
  | annotate id info =>
    refine ⟨h.capacity, fun d metric => ?_⟩
    rw [Store.perform, Store.perform, get_annotate, get_annotate]
    exact h.get d metric
  | clear => exact ⟨h.capacity, fun _ _ => .nil⟩

lemma performAll (h : s.Alike t) (hops : List.Forall₂ Operation.Alike ops ops') :
    (s.performAll ops).Alike (t.performAll ops') := by
  induction hops generalizing s t with
  | nil => exact h
  | cons hop _ ih => exact ih (h.perform hop)

end Alike

lemma alike_new (n : Nat) : (new n).Alike (new n) := ⟨rfl, fun _ _ => .nil⟩

/-- To be of the same reading is an equivalence of samples without a NaN, and messages bring no
others. It never holds between values of two kinds, and says that time and value agree but for the
signs of zeros. So in all that a store is given and asked about, a sample can stand for another one
of the same metric and reading: the answers are the same. -/
theorem sameReading_equivalence :
    (∀ clock raw m, Message.parse clock raw = .ok (.metric m) → m.sample.value.IsDefinite) ∧
    Equivalence (fun x y : Sample.Definite => x.1.sameReading y.1 = true) ∧
    (∀ x y : Sample, x.sameReading y = true → x.value.kind = y.value.kind) ∧
    (∀ x y : Sample.Definite, x.1.sameReading y.1 = true ↔
      x.1.timestamp = y.1.timestamp ∧ x.1.value.canonical = y.1.value.canonical) ∧
    (∀ (s : Store) (id : DeviceId) (x y : Sample), x.metric = y.metric →
      x.sameReading y = true → (s.ingest id x).2 = (s.ingest id y).2) ∧
    ∀ (n : Nat) (ops ops' : List Operation), List.Forall₂ Operation.Alike ops ops' →
      ∀ (id : DeviceId) (x y : Sample), x.metric = y.metric → x.sameReading y = true →
        (((new n).performAll ops).ingest id x).2 = (((new n).performAll ops').ingest id y).2 := by
  refine ⟨fun _ _ _ => Message.isDefinite_of_parse, ?_, fun _ _ => Sample.kind_eq_of_sameReading,
    fun x y => ?_, fun s id x y hmetric hxy => ?_, fun n ops ops' hops id x y hmetric hxy => ?_⟩
  · exact ⟨fun x => Sample.sameReading_self x.2, Sample.sameReading_symm, Sample.sameReading_trans⟩
  · rw [Sample.sameReading_iff]
    exact and_iff_right ⟨x.2, y.2⟩
  · exact ingest_snd_congr hmetric hxy s id
  · exact ((alike_new n).performAll hops).ingest_snd hmetric hxy id

/-- A sample with a number in a list in a list. -/
def nested (x : Binary64) : Sample := ⟨"load", .list [.list [.number (.real x)], .ofNat 1], "1"⟩

theorem sameReading_zeros :
    let x := nested .zero
    let y := nested .negativeZero
    Binary64.zero ≠ Binary64.negativeZero ∧ x.value.IsDefinite ∧ y.value.IsDefinite ∧
    x.metric = y.metric ∧ x.sameReading y = true ∧ y.sameReading x = true ∧
    x.value.kind = y.value.kind ∧ x.value.canonical = y.value.canonical ∧
    ((new 1).ingest ⟨"r1"⟩ x).2 = true ∧
    (((new 1).ingest ⟨"r1"⟩ x).1.ingest ⟨"r1"⟩ y).2 = false ∧
    (((new 1).ingest ⟨"r1"⟩ y).1.ingest ⟨"r1"⟩ x).2 = false := by
  intro x y
  have hdefinite : ∀ z : Binary64, z.isNaN = false → (nested z).value.IsDefinite := by
    intro z hz
    simp [nested, Measurement.IsDefinite, Json.Number.IsDefinite, Json.ofNat, hz]
  have hx : x.value.IsDefinite := hdefinite .zero (by decide)
  have hy : y.value.IsDefinite := hdefinite .negativeZero (by decide)
  have hxy : x.sameReading y = true := by decide +kernel
  have hrepeated : (((new 1).ingest ⟨"r1"⟩ x).1.ingest ⟨"r1"⟩ x).2 = false := by decide +kernel
  obtain ⟨-, hequivalence, hkind, hvalue, hone, hruns⟩ := sameReading_equivalence
  have hyx : y.sameReading x = true := hequivalence.symm (x := ⟨x, hx⟩) (y := ⟨y, hy⟩) hxy
  refine ⟨by decide, hx, hy, rfl, hxy, hyx, hkind x y hxy, ((hvalue ⟨x, hx⟩ ⟨y, hy⟩).1 hxy).2,
    by decide +kernel, ?_, ?_⟩
  · exact (hone _ ⟨"r1"⟩ x y rfl hxy).symm.trans hrepeated
  · have hops : List.Forall₂ Operation.Alike [.ingest ⟨"r1"⟩ y] [.ingest ⟨"r1"⟩ x] :=
      .cons (.ingest _ rfl hyx) .nil
    exact (hruns 1 _ _ hops ⟨"r1"⟩ x x rfl (hequivalence.refl ⟨x, hx⟩)).trans hrepeated

end Store
end LiveTelemetry
