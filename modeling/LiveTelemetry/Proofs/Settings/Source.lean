import LiveTelemetry.Proofs.Json.Parse
import LiveTelemetry.Proofs.Settings.Merge
import LiveTelemetry.Proofs.Toml.Document
import LiveTelemetry.Settings.Files

/-!
What files say about settings. Main statement: no file of either format names a setting twice, so
that a file which gives its groups as tables can be laid over others setting by setting.
-/
namespace LiveTelemetry

namespace Json

variable {depth : Nat} {cs : List Char}

lemma Fields.exists_denotes {first : Bool} {fs : List (String × Json)}
    (h : Fields depth first cs fs) : ∀ f ∈ fs, ∃ w, Denotes depth w f.2 := by
  induction fs generalizing first cs with
  | nil => exact fun _ hf => by cases hf
  | cons f fs ih =>
    cases h with
    | cons _ _ _ _ hv hr =>
      intro g hg
      rcases List.mem_cons.1 hg with rfl | hg
      · exact ⟨_, hv⟩
      · exact ih hr g hg

/-- The fields of an object are in order, and their values are denoted in turn. -/
lemma Denotes.fields {o : Table Json} (h : Denotes depth cs (.object o)) :
    Table.Sorted o ∧ ∀ f ∈ o, ∃ depth w, Denotes depth w f.2 := by
  generalize hv : Json.object o = v at h
  cases h with
  | object hf =>
    cases hv
    refine ⟨Table.sorted_ofList _, fun f hmem => ?_⟩
    exact ⟨_, hf.exists_denotes f (Table.mem_of_mem_ofList hmem)⟩
  | _ => cases hv

end Json

namespace Setting

variable {o o' : Option Origin} {es fs : List (String × Setting)}

/-- Nothing is named twice, neither at the top nor in the tables there. -/
structure NamesOnce (es : List (String × Setting)) : Prop where
  top : (es.map Prod.fst).Nodup
  tables : ∀ e ∈ es, ∀ fs o, e.2 = .table fs o → (fs.map Prod.fst).Nodup

lemma ofTomlEntries_eq_map (es : List (String × Toml)) :
    ofTomlEntries o es = es.map fun e => (e.1, ofToml o e.2) := by
  induction es with
  | nil => rfl
  | cons e es ih =>
    obtain ⟨k, v⟩ := e
    rw [ofTomlEntries, ih, List.map_cons]

lemma ofJsonEntries_eq_map (es : List (String × Json)) :
    ofJsonEntries o es = es.map fun e => (e.1, ofJson o e.2) := by
  induction es with
  | nil => rfl
  | cons e es ih =>
    obtain ⟨k, v⟩ := e
    rw [ofJsonEntries, ih, List.map_cons]

lemma keys_ofTomlEntries (es : List (String × Toml)) :
    (ofTomlEntries o es).map Prod.fst = es.map Prod.fst := by
  rw [ofTomlEntries_eq_map, List.map_map]
  rfl

lemma keys_ofJsonEntries (es : List (String × Json)) :
    (ofJsonEntries o es).map Prod.fst = es.map Prod.fst := by
  rw [ofJsonEntries_eq_map, List.map_map]
  rfl

lemma ofToml_eq_table {v : Toml} (h : ofToml o v = .table fs o') :
    ∃ es, v = .table es ∧ fs = ofTomlEntries o es := by
  cases v with
  | table es =>
    rw [ofToml] at h
    cases h
    exact ⟨es, rfl, rfl⟩
  | _ => simp [ofToml] at h

lemma ofJson_eq_table {v : Json} (h : ofJson o v = .table fs o') :
    ∃ es, v = .object es ∧ fs = ofJsonEntries o es := by
  cases v with
  | object es =>
    rw [ofJson] at h
    cases h
    exact ⟨es, rfl, rfl⟩
  | _ => simp [ofJson] at h

lemma namesOnce_ofTomlEntries {es : List (String × Toml)} (h : (Toml.table es).Neat) :
    NamesOnce (ofTomlEntries o es) := by
  rw [Toml.Neat, Toml.neatEntries_iff] at h
  constructor
  · rw [keys_ofTomlEntries]
    exact h.1.nodup
  · intro e he fs o' htable
    rw [ofTomlEntries_eq_map] at he
    obtain ⟨⟨k, v⟩, hv, rfl⟩ := List.mem_map.1 he
    obtain ⟨gs, rfl, rfl⟩ := ofToml_eq_table htable
    have hgs : (Toml.table gs).Neat := h.2 _ hv
    rw [Toml.Neat] at hgs
    rw [keys_ofTomlEntries]
    exact hgs.1.nodup

lemma namesOnce_ofJsonEntries {content : String} {es : Table Json}
    (h : Json.parse content = .ok (.object es)) : NamesOnce (ofJsonEntries o es) := by
  obtain ⟨_, _, _, -, hw, -, -⟩ := Json.parse_eq_ok_iff.1 h
  obtain ⟨hsorted, hvalues⟩ := hw.fields
  constructor
  · rw [keys_ofJsonEntries]
    exact hsorted.nodup
  · intro e he fs o' htable
    rw [ofJsonEntries_eq_map] at he
    obtain ⟨⟨k, v⟩, hv, rfl⟩ := List.mem_map.1 he
    obtain ⟨gs, rfl, rfl⟩ := ofJson_eq_table htable
    obtain ⟨_, _, hgs⟩ := hvalues _ hv
    rw [keys_ofJsonEntries]
    exact hgs.fields.1.nodup

/-- No file names a setting twice. -/
theorem namesOnce_of_readEntries? {f : Format} {content : String}
    (h : readEntries? f o content = some es) : NamesOnce es := by
  unfold readEntries? at h
  cases f with
  | toml =>
    obtain ⟨ts, hts, rfl⟩ := Option.map_eq_some_iff.1 h
    exact namesOnce_ofTomlEntries (Toml.neat_parse? hts)
  | json =>
    dsimp only at h
    split at h
    · next hjs =>
      cases h
      exact namesOnce_ofJsonEntries hjs
    · cases h

lemma namesOnce_of_ofFile? {name : String} {files : Table String}
    (h : ofFile? name files = some es) : NamesOnce es := by
  unfold ofFile? at h
  split at h
  · cases h
    exact ⟨List.nodup_nil, fun _ he => by cases he⟩
  · exact namesOnce_of_readEntries? h

/-- A source gives each group as a table, under its plain name. -/
def GivesTables (es : List (String × Setting)) : Prop :=
  ∀ e ∈ es, Step.ofKey e.1 = (e.1, []) ∧ ∃ fs o, e.2 = .table fs o

instance : (v : Setting) → Decidable (∃ fs o, v = .table fs o)
  | .table fs o => .isTrue ⟨fs, o, rfl⟩
  | .scalar _ _ => .isFalse fun ⟨_, _, h⟩ => by cases h
  | .list _ _ => .isFalse fun ⟨_, _, h⟩ => by cases h

instance : Decidable (GivesTables es) := by
  unfold GivesTables
  infer_instance

/-- A file that gives its groups as tables can be laid over others setting by setting. -/
lemma grouped_of_ofFile? {name : String} {files : Table String}
    (h : ofFile? name files = some es) (ht : GivesTables es) : Grouped es := by
  have honce := namesOnce_of_ofFile? h
  refine ⟨honce.top, fun e he => (ht e he).1, fun e he => ?_⟩
  obtain ⟨-, fs, o, htable⟩ := ht e he
  exact ⟨fs, o, htable, honce.tables e he fs o htable⟩

end Setting
end LiveTelemetry
