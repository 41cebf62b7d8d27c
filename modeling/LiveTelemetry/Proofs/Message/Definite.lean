import LiveTelemetry.Proofs.Message.Acceptance
import LiveTelemetry.Proofs.Reading.Equality

/-!
What messages bring for values. Main statement: however a number is spelled in a message, it is not
read as a NaN.
-/
namespace LiveTelemetry

/-! ### Numbers -/

namespace Binary64

lemma magnitude_lt (x : Binary64) : x.magnitude < signBit :=
  Nat.mod_lt _ (by decide)

lemma magnitude_ofMagnitude {m : Nat} (negative : Bool) (h : m < signBit) :
    (ofMagnitude negative m).magnitude = m := by
  have hsize : m + (if negative then signBit else 0) < 2 ^ 64 := by
    unfold signBit at *
    split <;> omega
  unfold magnitude ofMagnitude
  rw [UInt64.toNat_ofNat_of_lt' hsize]
  unfold signBit at *
  split <;> omega

lemma isNaN_ofMagnitude {m : Nat} (negative : Bool) (h : m ≤ infinityMagnitude) :
    (ofMagnitude negative m).isNaN = false := by
  have hlt : infinityMagnitude < signBit := by decide
  rw [isNaN, magnitude_ofMagnitude negative (Nat.lt_of_le_of_lt h hlt)]
  exact decide_eq_false (Nat.not_lt.2 h)

lemma nearestMagnitude_le (n d : Nat) : nearestMagnitude n d ≤ infinityMagnitude := by
  unfold nearestMagnitude
  split
  · exact Nat.zero_le _
  · exact Nat.min_le_right _ _

/-- What is rounded is at most infinite. -/
lemma isNaN_ofRatio (negative : Bool) (n d : Nat) : (ofRatio negative n d).isNaN = false :=
  isNaN_ofMagnitude negative (nearestMagnitude_le n d)

lemma isNaN_neg {x : Binary64} (h : x.isNaN = false) : x.neg.isNaN = false := by
  rw [isNaN, neg, magnitude_ofMagnitude _ x.magnitude_lt]
  exact h

end Binary64

namespace Json

lemma isNaN_of_scale {fuel : Nat} {x y : Binary64} {e : Int} (hx : x.isNaN = false)
    (h : scale fuel x e = some y) : y.isNaN = false := by
  induction fuel generalizing x e with
  | zero =>
    cases h
    exact hx
  | succ fuel ih =>
    unfold scale at h
    dsimp only at h
    split_ifs at h
    · cases h
      exact Binary64.isNaN_ofRatio _ _ _
    · cases h
      exact Binary64.isNaN_ofRatio _ _ _
    · cases h
      exact hx
    · exact ih (Binary64.isNaN_ofRatio _ _ _) h

namespace Magnitude

variable {negative : Bool} {significand : Nat} {n : Number}

lemma isDefinite_of_real? {e : Int} (h : real? negative significand e = some n) :
    n.IsDefinite := by
  obtain ⟨x, hx, rfl⟩ := Option.map_eq_some_iff.1 h
  have hnan : x.isNaN = false := isNaN_of_scale (Binary64.isNaN_ofRatio _ _ _) hx
  cases negative with
  | false => exact hnan
  | true => exact Binary64.isNaN_neg hnan

lemma isDefinite_of_withExponent? {shift : Int} {x : Option Exponent}
    (h : withExponent? negative significand shift x = some n) : n.IsDefinite := by
  cases x with
  | none => exact isDefinite_of_real? h
  | some x =>
    unfold withExponent? at h
    dsimp only at h
    split_ifs at h
    · cases h
      exact Binary64.isNaN_ofMagnitude negative (Nat.zero_le _)
    · exact isDefinite_of_real? h
    · exact isDefinite_of_real? h

lemma isDefinite_integer : (integer negative significand).IsDefinite := by
  unfold integer
  split_ifs
  · trivial
  · exact Binary64.isNaN_neg (Binary64.isNaN_ofRatio _ _ _)
  · trivial

lemma isDefinite_of_value? {m : Magnitude} (h : m.value? negative = some n) : n.IsDefinite := by
  unfold value? withTail? at h
  split at h
  · split_ifs at h
    · exact isDefinite_of_real? h
    · cases h
      exact isDefinite_integer
  · exact isDefinite_of_withExponent? h
  · exact isDefinite_of_withExponent? h

end Magnitude

/-! ### Values -/

mutual

lemma Denotes.isDefinite : ∀ {depth : Nat} {cs : List Char} {v : Json}, Denotes depth cs v →
    v.IsDefinite
  | _, _, _, .null => .null
  | _, _, _, .yes => .flag true
  | _, _, _, .no => .flag false
  | _, _, _, .positive _ hn => .number (Magnitude.isDefinite_of_value? hn)
  | _, _, _, .negative _ hn => .number (Magnitude.isDefinite_of_value? hn)
  | _, _, _, .text _ => .text _
  | _, _, _, .list h => .list h.isDefinite
  | _, _, _, .object h => .object fun f hf => h.isDefinite f (Table.mem_of_mem_ofList hf)

lemma Items.isDefinite : ∀ {depth : Nat} {first : Bool} {cs : List Char} {vs : List Json},
    Items depth first cs vs → ∀ v ∈ vs, v.IsDefinite
  | _, _, _, _, .nil _ => fun _ h => absurd h List.not_mem_nil
  | _, _, _, _, .cons _ hv hr => List.forall_mem_cons.2 ⟨hv.isDefinite, hr.isDefinite⟩

lemma Fields.isDefinite : ∀ {depth : Nat} {first : Bool} {cs : List Char}
    {fs : List (String × Json)}, Fields depth first cs fs → ∀ f ∈ fs, f.2.IsDefinite
  | _, _, _, _, .nil _ => fun _ h => absurd h List.not_mem_nil
  | _, _, _, _, .cons _ _ _ _ hv hr => List.forall_mem_cons.2 ⟨hv.isDefinite, hr.isDefinite⟩

end

lemma isDefinite_of_parse {s : String} {v : Json} (h : parse s = .ok v) : v.IsDefinite := by
  obtain ⟨_, _, _, -, hv, -, -⟩ := parse_eq_ok_iff.1 h
  exact hv.isDefinite

end Json

/-! ### Messages -/

lemma Measurement.isDefinite_of_ofJson? {v : Json} {x : Measurement} (hv : v.IsDefinite)
    (h : ofJson? v = some x) : x.IsDefinite := by
  cases hv with
  | @number n hn =>
    cases h
    cases n with
    | integer n => exact Binary64.isNaN_ofRatio _ _ _
    | real x => exact hn
  | text s =>
    cases h
    trivial
  | list hitems =>
    cases h
    exact hitems
  | _ => cases h

/-- The value that a message brings holds no NaN. -/
theorem Message.isDefinite_of_parse {clock raw : String} {m : MetricMessage}
    (h : parse clock raw = .ok (.metric m)) : m.sample.value.IsDefinite := by
  obtain ⟨o, ho, hread⟩ := readsMetric_of_parse h
  obtain ⟨v, hv, hx⟩ := hread.value
  cases Json.isDefinite_of_parse ho with
  | object hfields =>
    exact Measurement.isDefinite_of_ofJson? (hfields _ (Table.mem_of_lookup hv)) hx

end LiveTelemetry
