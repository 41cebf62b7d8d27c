import LiveTelemetry.Reading.Sample
import Mathlib.Tactic.Tauto

/-!
Equality of readings. Main statement: two readings are the same exactly if no number in them is a NaN
and they differ at most in the signs of zeros. So being the same is symmetric and transitive, and a
reading repeats itself unless there is a NaN in it.
-/
namespace LiveTelemetry

namespace Binary64

/-- The number itself, or the positive one of the two zeros. -/
def canonical (x : Binary64) : Binary64 := if x.isZero then zero else x

lemma canonical_eq_iff {x y : Binary64} :
    x.canonical = y.canonical ↔ x = y ∨ (x.isZero = true ∧ y.isZero = true) := by
  have hzero : zero.isZero = true := by decide
  constructor
  · intro h
    by_cases hx : x.isZero = true
    · by_cases hy : y.isZero = true
      · exact .inr ⟨hx, hy⟩
      · rw [canonical, if_pos hx, canonical, if_neg hy] at h
        exact absurd (h ▸ hzero) hy
    · by_cases hy : y.isZero = true
      · rw [canonical, if_neg hx, canonical, if_pos hy] at h
        exact absurd (h ▸ hzero) hx
      · rw [canonical, if_neg hx, canonical, if_neg hy] at h
        exact .inl h
  · rintro (rfl | ⟨hx, hy⟩)
    · rfl
    · rw [canonical, if_pos hx, canonical, if_pos hy]

lemma same_iff {x y : Binary64} :
    x.same y = true ↔ (x.isNaN = false ∧ y.isNaN = false) ∧ x.canonical = y.canonical := by
  simp [same, canonical_eq_iff]

end Binary64

namespace Json

namespace Number

def IsDefinite : Number → Prop
  | integer _ => True
  | real x => x.isNaN = false

def canonical : Number → Number
  | integer n => integer n
  | real x => real x.canonical

lemma same_iff {m n : Number} :
    m.same n = true ↔ (m.IsDefinite ∧ n.IsDefinite) ∧ m.canonical = n.canonical := by
  cases m with
  | integer m => cases n <;> simp [same, IsDefinite, canonical]
  | real x => cases n <;> simp [same, IsDefinite, canonical, Binary64.same_iff]

end Number

/-- No number in the value is a NaN. -/
inductive IsDefinite : Json → Prop
  | null : IsDefinite null
  | flag (b : Bool) : IsDefinite (flag b)
  | number {n : Number} (h : n.IsDefinite) : IsDefinite (number n)
  | text (s : String) : IsDefinite (text s)
  | list {xs : List Json} (h : ∀ x ∈ xs, IsDefinite x) : IsDefinite (list xs)
  | object {fs : List (String × Json)} (h : ∀ f ∈ fs, IsDefinite f.2) : IsDefinite (object fs)

@[simp] lemma isDefinite_number {n : Number} : (number n).IsDefinite ↔ n.IsDefinite :=
  ⟨fun | .number h => h, .number⟩

@[simp] lemma isDefinite_list {xs : List Json} :
    (list xs).IsDefinite ↔ ∀ x ∈ xs, x.IsDefinite :=
  ⟨fun | .list h => h, .list⟩

@[simp] lemma isDefinite_object {fs : List (String × Json)} :
    (object fs).IsDefinite ↔ ∀ f ∈ fs, f.2.IsDefinite :=
  ⟨fun | .object h => h, .object⟩

mutual

/-- The value with all zeros positive. -/
def canonical : Json → Json
  | null => null
  | flag b => flag b
  | number n => number n.canonical
  | text s => text s
  | list xs => list (canonicalItems xs)
  | object fs => object (canonicalFields fs)

def canonicalItems : List Json → List Json
  | [] => []
  | x :: xs => x.canonical :: canonicalItems xs

def canonicalFields : List (String × Json) → List (String × Json)
  | [] => []
  | (k, v) :: fs => (k, v.canonical) :: canonicalFields fs

end

mutual

-- The induction is on the first value. A second one of another shape is not the same, and neither is
-- its canonical form.
lemma same_iff : ∀ x y : Json,
    x.same y = true ↔ (x.IsDefinite ∧ y.IsDefinite) ∧ x.canonical = y.canonical
  | .null, y => by cases y <;> simp [same, canonical, IsDefinite.null]
  | .flag a, y => by cases y <;> simp [same, canonical, IsDefinite.flag]
  | .number m, y => by cases y <;> simp [same, canonical, Number.same_iff]
  | .text s, y => by cases y <;> simp [same, canonical, IsDefinite.text]
  | .list xs, y => by cases y <;> simp [same, canonical, sameItems_iff xs]
  | .object fs, y => by cases y <;> simp [same, canonical, sameFields_iff fs]

lemma sameItems_iff : ∀ xs ys : List Json, sameItems xs ys = true ↔
    ((∀ x ∈ xs, x.IsDefinite) ∧ ∀ y ∈ ys, y.IsDefinite) ∧ canonicalItems xs = canonicalItems ys
  | [], ys => by cases ys <;> simp [sameItems, canonicalItems]
  | x :: xs, [] => by simp [sameItems, canonicalItems]
  | x :: xs, y :: ys => by
    simp only [sameItems, canonicalItems, Bool.and_eq_true, List.forall_mem_cons, List.cons.injEq,
      same_iff x y, sameItems_iff xs ys]
    tauto

lemma sameFields_iff : ∀ fs gs : List (String × Json), sameFields fs gs = true ↔
    ((∀ f ∈ fs, f.2.IsDefinite) ∧ ∀ g ∈ gs, g.2.IsDefinite) ∧
      canonicalFields fs = canonicalFields gs
  | [], gs => by cases gs <;> simp [sameFields, canonicalFields]
  | f :: fs, [] => by simp [sameFields, canonicalFields]
  | (k, v) :: fs, (l, w) :: gs => by
    simp only [sameFields, canonicalFields, Bool.and_eq_true, beq_iff_eq, List.forall_mem_cons,
      List.cons.injEq, Prod.mk.injEq, same_iff v w, sameFields_iff fs gs]
    tauto

end

end Json

namespace Measurement

/-- No number in the value is a NaN. -/
def IsDefinite : Measurement → Prop
  | number x => x.isNaN = false
  | text _ => True
  | list items => ∀ j ∈ items, j.IsDefinite

/-- The value with all zeros positive. -/
def canonical : Measurement → Measurement
  | number x => number x.canonical
  | text s => text s
  | list items => list (Json.canonicalItems items)

lemma same_iff {v w : Measurement} :
    v.same w = true ↔ (v.IsDefinite ∧ w.IsDefinite) ∧ v.canonical = w.canonical := by
  cases v with
  | number x => cases w <;> simp [same, IsDefinite, canonical, Binary64.same_iff]
  | text s => cases w <;> simp [same, IsDefinite, canonical]
  | list xs => cases w <;> simp [same, IsDefinite, canonical, Json.sameItems_iff]

/-- An integer is the floating-point number of its size, but not in a list. -/
example : (number (Json.Number.integer 1).toBinary64).same (number (.ofNat 1)) = true ∧
    (list [.number (.integer 1)]).same (list [.number (.real (.ofNat 1))]) = false := by
  decide +kernel

inductive Kind where
  | number
  | text
  | list
  deriving DecidableEq

def kind : Measurement → Kind
  | number _ => .number
  | text _ => .text
  | list _ => .list

lemma kind_canonical (v : Measurement) : v.canonical.kind = v.kind := by
  cases v <;> rfl

end Measurement

namespace Sample

variable {x y z : Sample}

theorem sameReading_iff : x.sameReading y = true ↔ (x.value.IsDefinite ∧ y.value.IsDefinite) ∧
    x.timestamp = y.timestamp ∧ x.value.canonical = y.value.canonical := by
  rw [sameReading, Bool.and_eq_true, beq_iff_eq, Measurement.same_iff, and_left_comm]

theorem sameReading_self (h : x.value.IsDefinite) : x.sameReading x = true :=
  sameReading_iff.2 ⟨⟨h, h⟩, rfl, rfl⟩

lemma sameReading_symm (h : x.sameReading y = true) : y.sameReading x = true := by
  obtain ⟨⟨hx, hy⟩, htime, hvalue⟩ := sameReading_iff.1 h
  exact sameReading_iff.2 ⟨⟨hy, hx⟩, htime.symm, hvalue.symm⟩

theorem sameReading_comm (x y : Sample) : x.sameReading y = y.sameReading x :=
  Bool.eq_iff_iff.2 ⟨sameReading_symm, sameReading_symm⟩

lemma sameReading_trans (h : x.sameReading y = true) (h' : y.sameReading z = true) :
    x.sameReading z = true := by
  obtain ⟨⟨hx, -⟩, htime, hvalue⟩ := sameReading_iff.1 h
  obtain ⟨⟨-, hz⟩, htime', hvalue'⟩ := sameReading_iff.1 h'
  exact sameReading_iff.2 ⟨⟨hx, hz⟩, htime.trans htime', hvalue.trans hvalue'⟩

lemma kind_eq_of_sameReading (h : x.sameReading y = true) : x.value.kind = y.value.kind := by
  rw [← Measurement.kind_canonical, (sameReading_iff.1 h).2.2, Measurement.kind_canonical]

end Sample
end LiveTelemetry
