import LiveTelemetry.Proofs.Table
import LiveTelemetry.Schema.OfJson
import LiveTelemetry.Schema.OfSetting
import Mathlib.Data.List.Forall2
import Mathlib.Tactic.Common

/-!
Reading records from JSON objects and from tables of settings. Main statement: either is read as a
record exactly if each field, on its own, is read from the value under its name or stands for one
that is missing; other entries play no part.
-/
namespace LiveTelemetry

lemma forall₂_congr_of_mem {α β : Type} {R S : α → β → Prop} {xs : List α} {ys : List β}
    (h : ∀ x ∈ xs, ∀ y, R x y ↔ S x y) : List.Forall₂ R xs ys ↔ List.Forall₂ S xs ys := by
  induction xs generalizing ys with
  | nil => rw [List.forall₂_nil_left_iff, List.forall₂_nil_left_iff]
  | cons x xs ih =>
    simp only [List.forall₂_cons_left_iff, h x List.mem_cons_self,
      ih fun x hx => h x (List.mem_cons_of_mem _ hx)]

lemma exists_of_forall₂ {α β : Type} {R : α → β → Prop} {xs : List α} {ys : List β}
    (h : List.Forall₂ R xs ys) {x : α} (hx : x ∈ xs) : ∃ y, R x y := by
  induction h with
  | nil => cases hx
  | @cons a b _ _ hab _ ih =>
    rcases List.mem_cons.1 hx with rfl | hx
    · exact ⟨b, hab⟩
    · exact ih hx

namespace Schema

/-- What a field of a schema makes of the entries that a reader is given. -/
def FieldReads {α ε : Type} (read : Schema → α → Except ε Datum) (entries : Table α)
    (field : String × Schema × Option Datum) (d : Datum) : Prop :=
  match Table.lookup field.1 entries with
  | some v => read field.2.1 v = .ok d
  | none => absence field.2.1 field.2.2 = some d

/-! ### Fields that are found -/

section

variable {α ε : Type} {fields : List (Field (α → Except ε Datum))} {entries : List (String × α)}
  {out : List (String × Datum)}

/-- What was found under the names of fields, in the order of the entries. -/
def foundIn (fields : List (Field (α → Except ε Datum))) (entries : List (String × α)) :
    List (String × Datum) :=
  entries.filterMap fun e =>
    (findField e.1 fields).bind fun f => (f.read e.2).toOption.map fun d => (e.1, d)

/-- Every entry that is one of the fields can be read. -/
def AllRead (fields : List (Field (α → Except ε Datum))) (entries : List (String × α)) : Prop :=
  ∀ e ∈ entries, ∀ f, findField e.1 fields = some f → ∃ d, f.read e.2 = .ok d

lemma assemble_eq_ok_iff {ρ : Type} {found : List (String × Datum)} {fs : List (Field ρ)} :
    assemble found fs = .ok out ↔
      List.Forall₂ (fun f p => p.1 = f.name ∧ (found.lookup f.name).or f.absence = some p.2)
        fs out := by
  induction fs generalizing out with
  | nil => cases out <;> simp [assemble]
  | cons f fs ih =>
    rw [List.forall₂_cons_left_iff]
    unfold assemble
    constructor
    · intro h
      split at h
      · cases h
      · next d hd =>
        cases ha : assemble found fs with
        | error m => rw [ha] at h; cases h
        | ok ds =>
          rw [ha] at h
          cases h
          exact ⟨_, ds, ⟨rfl, hd⟩, ih.1 ha, rfl⟩
    · rintro ⟨⟨k, d⟩, ds, ⟨rfl, hd⟩, ha, rfl⟩
      rw [hd]
      dsimp only
      rw [ih.2 ha]
      rfl

lemma findField_eq_some {ρ : Type} {fields : List (Field ρ)} {name : String} {f : Field ρ}
    (h : findField name fields = some f) : f ∈ fields ∧ f.name = name :=
  ⟨List.mem_of_find?_eq_some h, by simpa using List.find?_some h⟩

lemma findField_of_mem {ρ : Type} {fields : List (Field ρ)} {f : Field ρ}
    (hn : (fields.map Field.name).Nodup) (hf : f ∈ fields) : findField f.name fields = some f := by
  induction fields with
  | nil => cases hf
  | cons g fields ih =>
    obtain ⟨hg, hn⟩ := List.nodup_cons.1 hn
    unfold findField
    rcases List.mem_cons.1 hf with rfl | hf
    · simp
    · have hne : g.name ≠ f.name := fun e => hg (e ▸ List.mem_map_of_mem hf)
      rw [List.find?_cons_of_neg (by simpa using hne)]
      exact ih hn hf

/-- What was found under a name is what the field makes of the first entry with this name. -/
lemma lookup_foundIn {f : Field (α → Except ε Datum)} (hf : findField f.name fields = some f)
    (hread : AllRead fields entries) :
    (foundIn fields entries).lookup f.name =
      (Table.lookup f.name entries).bind fun v => (f.read v).toOption := by
  induction entries with
  | nil => rfl
  | cons e entries ih =>
    obtain ⟨k, v⟩ := e
    have ih := ih fun e he => hread e (List.mem_cons_of_mem _ he)
    unfold foundIn at ih ⊢
    unfold Table.lookup
    by_cases hk : k = f.name
    · subst hk
      obtain ⟨d, hd⟩ := hread _ List.mem_cons_self f hf
      simp [hf, hd, Except.toOption]
    · rw [if_neg hk, List.filterMap_cons]
      split
      · exact ih
      · next p hp =>
        obtain ⟨g, -, hp⟩ := Option.bind_eq_some_iff.1 hp
        obtain ⟨d, -, rfl⟩ := Option.map_eq_some_iff.1 hp
        rw [List.lookup_cons, beq_false_of_ne (Ne.symm hk)]
        exact ih

/-- Fields are found one by one, whatever other entries there are. -/
lemma assemble_foundIn_eq_ok_iff (hs : Table.Sorted entries) (hn : (fields.map Field.name).Nodup) :
    (AllRead fields entries ∧ assemble (foundIn fields entries) fields = .ok out) ↔
      List.Forall₂ (fun f p => p.1 = f.name ∧ match Table.lookup f.name entries with
        | some v => f.read v = .ok p.2
        | none => f.absence = some p.2) fields out := by
  rw [assemble_eq_ok_iff]
  have hone : AllRead fields entries → ∀ f ∈ fields, ∀ p : String × Datum,
      (p.1 = f.name ∧ ((foundIn fields entries).lookup f.name).or f.absence = some p.2) ↔
        (p.1 = f.name ∧ match Table.lookup f.name entries with
          | some v => f.read v = .ok p.2
          | none => f.absence = some p.2) := by
    intro hread f hf p
    have hfind := findField_of_mem hn hf
    rw [lookup_foundIn hfind hread]
    cases hv : Table.lookup f.name entries with
    | none => exact Iff.rfl
    | some v =>
      obtain ⟨d, hd⟩ := hread _ (Table.mem_of_lookup hv) f hfind
      simp [hd, Except.toOption]
  constructor
  · rintro ⟨hread, h⟩
    exact (forall₂_congr_of_mem (hone hread)).1 h
  · intro h
    have hread : AllRead fields entries := by
      intro e he g hg
      obtain ⟨hg, hname⟩ := findField_eq_some hg
      obtain ⟨p, -, hp⟩ := exists_of_forall₂ h hg
      rw [hname, hs.lookup_of_mem he] at hp
      exact ⟨p.2, hp⟩
    exact ⟨hread, (forall₂_congr_of_mem (hone hread)).2 h⟩

end

/-- Fields are read as the entries of a record, one by one. -/
abbrev FieldsRead {α ε : Type} (read : Schema → α → Except ε Datum) (entries : Table α) :
    List (String × Schema × Option Datum) → List (String × Datum) → Prop :=
  List.Forall₂ fun f p => p.1 = f.1 ∧ FieldReads read entries f p.2

/-! ### Objects -/

section

variable {fs : List (String × Schema × Option Datum)} {name : String}

lemma readFields_eq_ok_iff {fields : List (Field JsonReader)} {entries : List (String × Json)}
    {out found : List (String × Datum)} :
    readFields fields found entries = .ok out ↔
      AllRead fields entries ∧
        assemble (found.reverse ++ foundIn fields entries) fields = .ok out := by
  unfold AllRead
  induction entries generalizing found with
  | nil => simp [readFields, foundIn]
  | cons e entries ih =>
    obtain ⟨k, v⟩ := e
    unfold readFields
    cases hf : findField k fields with
    | none => simp [ih, foundIn, hf]
    | some f =>
      dsimp only
      cases hr : f.read v with
      | error m => simp [hf, hr]
      | ok d => simp [ih, foundIn, hf, hr, Except.toOption]

lemma jsonFields_eq_map (fs : List (String × Schema × Option Datum)) :
    jsonFields fs = fs.map fun f => ⟨f.1, ofJson f.2.1, absence f.2.1 f.2.2, f.2.2⟩ := by
  induction fs with
  | nil => rfl
  | cons f fs ih =>
    obtain ⟨name, s, default⟩ := f
    rw [jsonFields, ih, List.map_cons]

/-- An object is read as a record field by field, whatever else it holds. -/
theorem ofJson_record_eq_ok_iff {entries : Table Json} {d : Datum} (hs : Table.Sorted entries)
    (hn : (fs.map Prod.fst).Nodup) :
    (record name fs).ofJson (.object entries) = .ok d ↔
      ∃ out, FieldsRead ofJson entries fs out ∧ d = .record out := by
  have hn' : ((jsonFields fs).map Field.name).Nodup := by
    rwa [jsonFields_eq_map, List.map_map]
  have h (out) : readFields (jsonFields fs) [] entries = .ok out ↔
      FieldsRead ofJson entries fs out := by
    rw [readFields_eq_ok_iff, List.reverse_nil, List.nil_append,
      assemble_foundIn_eq_ok_iff hs hn', jsonFields_eq_map, List.forall₂_map_left_iff]
    rfl
  simp only [ofJson, readRecord]
  constructor
  · intro hr
    cases ho : readFields (jsonFields fs) [] entries with
    | error m => rw [ho] at hr; cases hr
    | ok out =>
      rw [ho] at hr
      cases hr
      exact ⟨out, (h out).1 ho, rfl⟩
  · rintro ⟨out, ho, rfl⟩
    rw [(h out).2 ho]
    rfl

lemma exists_ofJson_record {entries : Table Json} {P : Datum → Prop} (hs : Table.Sorted entries)
    (hn : (fs.map Prod.fst).Nodup) :
    (∃ d, (record name fs).ofJson (.object entries) = .ok d ∧ P d) ↔
      ∃ out, FieldsRead ofJson entries fs out ∧ P (.record out) := by
  simp only [ofJson_record_eq_ok_iff hs hn]
  constructor
  · rintro ⟨_, ⟨out, h, rfl⟩, hP⟩
    exact ⟨out, h, hP⟩
  · rintro ⟨out, h, hP⟩
    exact ⟨_, ⟨out, h, rfl⟩, hP⟩

end

/-! ### Tables of settings -/

section

variable {fs : List (String × Schema × Option Datum)} {name : String}

lemma settingEntries_eq_ok_iff {fields : List (Field SettingReader)}
    {entries : List (String × Setting)} {out found : List (String × Datum)} :
    settingEntries fields found entries = .ok out ↔
      AllRead fields entries ∧
        assemble (found.reverse ++ foundIn fields entries) fields = .ok out := by
  unfold AllRead
  induction entries generalizing found with
  | nil =>
    unfold settingEntries
    cases h : assemble found.reverse fields <;> simp [foundIn, h, misshapen]
  | cons e entries ih =>
    obtain ⟨k, v⟩ := e
    unfold settingEntries
    cases hf : findField k fields with
    | none => simp [ih, foundIn, hf]
    | some f =>
      dsimp only
      cases hr : f.read v with
      | error m => simp [hf, hr, inside]
      | ok d => simp [ih, foundIn, hf, hr, inside, Except.toOption]

lemma settingFields_eq_map (fs : List (String × Schema × Option Datum)) :
    settingFields fs = fs.map fun f => ⟨f.1, ofSetting f.2.1, absence f.2.1 f.2.2, f.2.2⟩ := by
  induction fs with
  | nil => rfl
  | cons f fs ih =>
    obtain ⟨name, s, default⟩ := f
    rw [settingFields, ih, List.map_cons]

/-- A table of settings is read as a record field by field, whatever else it holds. -/
theorem ofSetting_record_eq_ok_iff {entries : Table Setting} {o : Option Setting.Origin}
    {d : Datum} (hs : Table.Sorted entries) (hn : (fs.map Prod.fst).Nodup) :
    (record name fs).ofSetting (.table entries o) = .ok d ↔
      ∃ out, FieldsRead ofSetting entries fs out ∧ d = .record out := by
  have hn' : ((settingFields fs).map Field.name).Nodup := by
    rwa [settingFields_eq_map, List.map_map]
  have h (out) : settingEntries (settingFields fs) [] entries = .ok out ↔
      FieldsRead ofSetting entries fs out := by
    rw [settingEntries_eq_ok_iff, List.reverse_nil, List.nil_append,
      assemble_foundIn_eq_ok_iff hs hn', settingFields_eq_map, List.forall₂_map_left_iff]
    rfl
  simp only [ofSetting, settingRecord]
  constructor
  · intro hr
    cases ho : settingEntries (settingFields fs) [] entries with
    | error m => rw [ho] at hr; cases hr
    | ok out =>
      rw [ho] at hr
      cases hr
      exact ⟨out, (h out).1 ho, rfl⟩
  · rintro ⟨out, ho, rfl⟩
    rw [(h out).2 ho]
    rfl

end

/-! ### One field after the other -/

variable {α ε : Type} {read : Schema → α → Except ε Datum} {entries : Table α}
  {P : List (String × Datum) → Prop}

lemma exists_fieldsRead_nil : (∃ out, FieldsRead read entries [] out ∧ P out) ↔ P [] := by
  simp [FieldsRead]

lemma exists_fieldsRead_cons {f : String × Schema × Option Datum}
    {fs : List (String × Schema × Option Datum)} :
    (∃ out, FieldsRead read entries (f :: fs) out ∧ P out) ↔
      ∃ d, FieldReads read entries f d ∧
        ∃ out, FieldsRead read entries fs out ∧ P ((f.1, d) :: out) := by
  constructor
  · rintro ⟨_, _ | ⟨⟨hk, hd⟩, h⟩, hP⟩
    exact ⟨_, hd, _, h, hk ▸ hP⟩
  · rintro ⟨d, hd, out, h, hP⟩
    exact ⟨_, .cons ⟨rfl, hd⟩ h, hP⟩

end Schema
end LiveTelemetry
