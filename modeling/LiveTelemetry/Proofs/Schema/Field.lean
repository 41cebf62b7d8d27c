import LiveTelemetry.Proofs.Schema.Record

/-!
Fields of records, by what is wanted of their values.
-/
namespace LiveTelemetry

namespace Datum

lemma text?_eq_some {d : Datum} {s : String} : d.text? = some s ↔ d = .text s := by
  cases d <;> simp [text?]

lemma flag?_eq_some {d : Datum} {b : Bool} : d.flag? = some b ↔ d = .flag b := by
  cases d <;> simp [flag?]

lemma uint64?_eq_some {d : Datum} {x : UInt64} : d.uint64? = some x ↔ d = .ofUInt64 x := by
  have hsize : UInt64.size = 18446744073709551616 := rfl
  cases d with
  | integer n =>
    simp only [uint64?, ofUInt64, integer.injEq]
    constructor
    · intro h
      split_ifs at h with hn
      cases h
      rw [UInt64.toNat_ofNat_of_lt' (by omega)]
      omega
    · rintro rfl
      have hx := x.toNat_lt
      rw [if_pos (by omega), Int.toNat_natCast, UInt64.ofNat_toNat]
  | _ => simp [uint64?, ofUInt64]

lemma optional?_text?_eq_some {d : Datum} {s : Option String} :
    d.optional? text? = some s ↔ d = .ofOptionText s := by
  cases d with
  | absent => cases s <;> simp [optional?, ofOptionText, ofOption]
  | present d =>
    cases s <;> simp [optional?, ofOptionText, ofOption, text?_eq_some]
  | _ => cases s <;> simp [optional?, ofOptionText, ofOption]

lemma uint32?_integer {n : Int} {x : UInt32} : (integer n).uint32? = some x ↔ n = x.toNat := by
  have hsize : UInt32.size = 4294967296 := rfl
  simp only [uint32?]
  constructor
  · intro h
    split_ifs at h with hn
    cases h
    rw [UInt32.toNat_ofNat_of_lt' (by omega)]
    omega
  · rintro rfl
    have hx := x.toNat_lt
    rw [if_pos (by omega), Int.toNat_natCast, UInt32.ofNat_toNat]

lemma int32?_integer {n : Int} {x : Int32} : (integer n).int32? = some x ↔ n = x.toInt := by
  simp only [int32?, fitsInt32_iff]
  constructor
  · intro h
    split_ifs at h with hn
    cases h
    exact (Int32.toInt_ofInt_of_le hn.1 hn.2).symm
  · rintro rfl
    rw [if_pos ⟨x.le_toInt, x.toInt_lt⟩, Int32.ofInt_toInt]

@[simp] lemma uint64?_ofUInt64 (x : UInt64) : (ofUInt64 x).uint64? = some x :=
  uint64?_eq_some.2 rfl

@[simp] lemma uint32?_ofUInt32 (x : UInt32) : (ofUInt32 x).uint32? = some x :=
  uint32?_integer.2 rfl

@[simp] lemma int32?_ofInt32 (x : Int32) : (ofInt32 x).int32? = some x := int32?_integer.2 rfl

lemma optional?_ofOption {α : Type} {f : α → Datum} {g : Datum → Option α}
    (h : ∀ a, g (f a) = some a) (o : Option α) : (ofOption f o).optional? g = some o := by
  cases o with
  | none => rfl
  | some a => rw [ofOption, optional?, h a, Option.map_some]

@[simp] lemma optional?_ofOptionText (s : Option String) :
    (ofOptionText s).optional? text? = some s := optional?_text?_eq_some.2 rfl

end Datum

namespace Schema

/-- What a datum is follows from what its field holds. -/
lemma exists_and_of_iff {α : Type} {A P : Datum → Prop} {B : α → Prop} {f : α → Datum}
    (h : ∀ d, A d ↔ ∃ a, B a ∧ d = f a) : (∃ d, A d ∧ P d) ↔ ∃ a, B a ∧ P (f a) := by
  constructor
  · rintro ⟨d, hd, hP⟩
    obtain ⟨a, ha, rfl⟩ := (h d).1 hd
    exact ⟨a, ha, hP⟩
  · rintro ⟨a, ha, hP⟩
    exact ⟨f a, (h _).2 ⟨a, ha, rfl⟩, hP⟩

variable {entries : Table Json} {name : String} {d : Datum}

lemma fieldReads_text : FieldReads ofJson entries (required name .text) d ↔
    ∃ s, Table.lookup name entries = some (.text s) ∧ d = .text s := by
  unfold FieldReads required absence
  dsimp only
  cases Table.lookup name entries with
  | none => simp
  | some v => cases v <;> simp [ofJson, wrong, eq_comm]

/-- A field that may be missing holds what it stands for then. -/
lemma fieldReads_withDefault_text {t : String} :
    FieldReads ofJson entries (withDefault name .text (.text t)) d ↔
      ∃ s, (Table.lookup name entries).getD (.text t) = .text s ∧ d = .text s := by
  unfold FieldReads withDefault absence
  dsimp only
  cases Table.lookup name entries with
  | none => simp [eq_comm]
  | some v => cases v <;> simp [ofJson, wrong, eq_comm]

lemma fieldReads_word {type : String} {low high : Int} :
    FieldReads ofJson entries (required name (.word type low high)) d ↔
      ∃ n, (Table.lookup name entries = some (.number (.integer n)) ∧ low ≤ n ∧ n ≤ high) ∧
        d = .integer n := by
  unfold FieldReads required absence
  dsimp only
  cases Table.lookup name entries with
  | none => simp
  | some v =>
    cases v with
    | number k =>
      cases k with
      | integer n =>
        simp only [ofJson, wordDatum, Option.some.injEq, Json.number.injEq,
          Json.Number.integer.injEq]
        split_ifs with h <;> simp [h, eq_comm]
      | real x => simp [ofJson, wrong]
    | _ => simp [ofJson, wrong]

/-- A field that may be missing holds what it stands for then. -/
lemma fieldReads_withDefault_word {type : String} {low high k : Int} (hk : low ≤ k ∧ k ≤ high) :
    FieldReads ofJson entries (withDefault name (.word type low high) (.integer k)) d ↔
      ∃ n, ((Table.lookup name entries).getD (.number (.integer k)) = .number (.integer n) ∧
        low ≤ n ∧ n ≤ high) ∧ d = .integer n := by
  cases hv : Table.lookup name entries with
  | none => simp [FieldReads, withDefault, absence, hv, hk, eq_comm]
  | some v =>
    have h := @fieldReads_word entries name d type low high
    simpa [FieldReads, required, withDefault, hv] using h

lemma fieldReads_uint32 : FieldReads ofJson entries (required name .uint32) d ↔
    ∃ x : UInt32, Table.lookup name entries = some (.number (.integer x.toNat)) ∧
      d = .ofUInt32 x := by
  have hsize : UInt32.size = 4294967296 := rfl
  rw [uint32, fieldReads_word]
  constructor
  · rintro ⟨n, ⟨h, hlow, hhigh⟩, rfl⟩
    have hn : n = (UInt32.ofNat n.toNat).toNat := by
      rw [UInt32.toNat_ofNat_of_lt' (by omega)]
      omega
    exact ⟨UInt32.ofNat n.toNat, hn ▸ h, congrArg Datum.integer hn⟩
  · rintro ⟨x, h, rfl⟩
    have hx := x.toNat_lt
    exact ⟨x.toNat, ⟨h, by omega, by omega⟩, rfl⟩

/-- A number that may be missing counts as zero then. -/
lemma fieldReads_withDefault_int32 :
    FieldReads ofJson entries (withDefault name .int32 (.integer 0)) d ↔
      ∃ x : Int32, (Table.lookup name entries).getD (.number (.integer 0)) =
        .number (.integer x.toInt) ∧ d = .ofInt32 x := by
  rw [int32, fieldReads_withDefault_word (by decide)]
  constructor
  · rintro ⟨n, ⟨h, hlow, hhigh⟩, rfl⟩
    have hn : n = (Int32.ofInt n).toInt := (Int32.toInt_ofInt_of_le hlow (by omega)).symm
    exact ⟨Int32.ofInt n, hn ▸ h, congrArg Datum.integer hn⟩
  · rintro ⟨x, h, rfl⟩
    have hlow := x.le_toInt
    have hhigh := x.toInt_lt
    exact ⟨x.toInt, ⟨h, by omega, by omega⟩, rfl⟩

lemma fieldReads_optional_text : FieldReads ofJson entries (required name (.optional .text)) d ↔
    ∃ s, (Table.lookup name entries).getD .null = .ofOption .text s ∧ d = .ofOptionText s := by
  have hnull : (∃ s, Json.null = .ofOption .text s ∧ d = .ofOptionText s) ↔ d = .absent := by
    constructor
    · rintro ⟨_ | s, hs, rfl⟩
      · rfl
      · cases hs
    · rintro rfl
      exact ⟨none, rfl, rfl⟩
  unfold FieldReads required absence
  dsimp only
  cases Table.lookup name entries with
  | none => rw [Option.getD_none, hnull, Option.some.injEq, eq_comm]
  | some v =>
    rw [Option.getD_some]
    cases v with
    | null => simpa [ofJson, eq_comm] using hnull.symm
    | text s =>
      constructor
      · intro h
        cases h
        exact ⟨some s, rfl, rfl⟩
      · rintro ⟨_ | s, hs, rfl⟩
        · cases hs
        · cases hs
          rfl
    | _ =>
      refine iff_of_false (by simp [ofJson, wrong, Except.map]) ?_
      rintro ⟨_ | s, hs, -⟩ <;> cases hs

lemma fieldReads_measurement : FieldReads ofJson entries (required name .measurement) d ↔
    ∃ m, (∃ v, Table.lookup name entries = some v ∧ Measurement.ofJson? v = some m) ∧
      d = .measurement m := by
  unfold FieldReads required absence
  dsimp only
  cases Table.lookup name entries with
  | none => simp
  | some v =>
    simp only [ofJson, measurementDatum, Option.some.injEq, exists_eq_left']
    cases Measurement.ofJson? v <;> simp [eq_comm]

/-- A field of a choice that holds a text holds one of its words. -/
lemma fieldReads_choice {type s : String} {tags : List String}
    (h : Table.lookup name entries = some (.text s)) (hs : s ∈ tags) :
    FieldReads ofJson entries (required name (.choice type tags)) d ↔ d = .choice s := by
  simp [FieldReads, required, h, ofJson, readChoice, choiceDatum, hs, eq_comm]

end Schema
end LiveTelemetry
