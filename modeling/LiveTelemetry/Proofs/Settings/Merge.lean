import LiveTelemetry.Proofs.Schema.Record
import LiveTelemetry.Settings.Variables

/-!
Sources laid over each other, as seen from one setting. Main statements: a source that gives its
groups as tables replaces exactly the settings it names; a key that leads elsewhere leaves a setting
alone; and the result is in order, group by group.
-/
namespace LiveTelemetry.Setting

variable {key group name : String} {v : Setting} {t : Table Setting}
  {es : List (String × Setting)}

/-- The setting of a name in a group. -/
def leaf (group name : String) (t : Table Setting) : Option Setting :=
  Table.lookup name (entry group t).entries

lemma entry_of_lookup (h : Table.lookup key t = some v) : entry key t = v := by
  rw [entry, h, Option.getD_some]

lemma entry_of_lookup_eq_none (h : Table.lookup key t = none) : entry key t = null := by
  rw [entry, h, Option.getD_none]

@[simp] lemma entry_put_self : entry key (Table.put key v t) = v :=
  entry_of_lookup (Table.lookup_put_self key v t)

lemma entry_put_of_ne {k : String} (h : k ≠ key) : entry k (Table.put key v t) = entry k t := by
  rw [entry, entry, Table.lookup_put_of_ne h]

/-- A setting of a group is there only if the group is a table. -/
lemma exists_of_leaf (h : leaf group name t = some v) :
    ∃ fs o, Table.lookup group t = some (.table fs o) := by
  unfold leaf at h
  cases hg : Table.lookup group t with
  | none =>
    rw [entry_of_lookup_eq_none hg] at h
    cases h
  | some w =>
    rw [entry_of_lookup hg] at h
    cases w with
    | table fs o => exact ⟨fs, o, rfl⟩
    | scalar s o => cases h
    | list xs o => cases h

/-! ### Order -/

/-- A table is in order, and so is each table in it. -/
structure Tidy (t : Table Setting) : Prop where
  sorted : Table.Sorted t
  groups : ∀ group, Table.Sorted (entry group t).entries

lemma tidy_nil : Tidy [] := ⟨Table.sorted_nil, fun _ => Table.sorted_nil⟩

lemma Tidy.put (h : Tidy t) (hv : Table.Sorted v.entries) : Tidy (Table.put key v t) := by
  refine ⟨h.sorted.put key v, fun group => ?_⟩
  by_cases hg : group = key
  · rwa [hg, entry_put_self]
  · rw [entry_put_of_ne hg]
    exact h.groups group

lemma sorted_layEntriesOver (h : Table.Sorted t) : Table.Sorted (layEntriesOver es t) := by
  induction es generalizing t with
  | nil => simpa [layEntriesOver] using h
  | cons e es ih =>
    obtain ⟨k, v⟩ := e
    rw [layEntriesOver]
    exact ih (h.put k _)

lemma sorted_layOver {old : Setting} (h : Table.Sorted old.entries) :
    Table.Sorted (v.layOver old).entries := by
  cases v with
  | scalar s o => simpa [entries] using Table.sorted_nil
  | list xs o => simpa [entries] using Table.sorted_nil
  | table fs o =>
    rw [layOver]
    exact sorted_layEntriesOver h

lemma sorted_place {steps : List Step} {old : Setting} (h : Table.Sorted old.entries) :
    Table.Sorted (place v steps old).entries := by
  cases steps with
  | nil => exact sorted_layOver h
  | cons s r =>
    cases s with
    | key k => exact h.put k _
    | index i => exact Table.sorted_nil

lemma Tidy.assign (h : Tidy t) : Tidy (assign key v t) :=
  h.put (sorted_place (h.groups _))

/-- Sources keep a table in order. -/
lemma Tidy.layer (h : Tidy t) : Tidy (layer es t) := by
  induction es generalizing t with
  | nil => exact h
  | cons e es ih => exact ih h.assign

/-! ### Settings in files -/

/-- The groups of a source are tables under plain names, and it names nothing twice. -/
structure Grouped (es : List (String × Setting)) : Prop where
  nodup : (es.map Prod.fst).Nodup
  plain : ∀ e ∈ es, Step.ofKey e.1 = (e.1, [])
  tables : ∀ e ∈ es, ∃ fs o, e.2 = .table fs o ∧ (fs.map Prod.fst).Nodup

/-- Every entry of a table is a table. -/
def Tabular (t : Table Setting) : Prop :=
  ∀ group v, Table.lookup group t = some v → ∃ fs o, v = .table fs o

lemma Tabular.put (h : Tabular t) {fs : Table Setting} {o : Option Origin} :
    Tabular (Table.put key (.table fs o) t) := by
  intro group v hv
  rw [Table.lookup_put] at hv
  split_ifs at hv with hg
  · cases hv
    exact ⟨fs, o, rfl⟩
  · exact h group v hv

/-- Entries are laid over one by one. -/
lemma lookup_layEntriesOver (hn : (es.map Prod.fst).Nodup) :
    Table.lookup key (layEntriesOver es t) =
      ((Table.lookup key es).map fun v => v.layOver (entry key t)).or (Table.lookup key t) := by
  induction es generalizing t with
  | nil => simp [layEntriesOver]
  | cons e es ih =>
    obtain ⟨k, v⟩ := e
    rw [List.map_cons, List.nodup_cons] at hn
    rw [layEntriesOver, ih hn.2, Table.lookup]
    by_cases hk : k = key
    · subst hk
      rw [Table.lookup_eq_none_of_notMem hn.1, if_pos rfl, Table.lookup_put_self]
      rfl
    · rw [if_neg hk, entry_put_of_ne (Ne.symm hk), Table.lookup_put_of_ne (Ne.symm hk)]

/-- Without paths, a source is laid over a table as one table over another. -/
lemma layer_eq_layEntriesOver (h : ∀ e ∈ es, Step.ofKey e.1 = (e.1, [])) :
    layer es t = layEntriesOver es t := by
  induction es generalizing t with
  | nil => simp [layer, layEntriesOver]
  | cons e es ih =>
    obtain ⟨k, v⟩ := e
    have hk : Step.ofKey k = (k, []) := h _ List.mem_cons_self
    have hassign : assign k v t = Table.put k (v.layOver (entry k t)) t := by
      rw [assign, hk]
      rfl
    rw [layEntriesOver, ← ih fun e he => h e (List.mem_cons_of_mem _ he), ← hassign]
    rfl

lemma Tabular.layer (h : Tabular t) (hes : Grouped es) : Tabular (layer es t) := by
  rw [layer_eq_layEntriesOver hes.plain]
  have htables := hes.tables
  clear hes
  induction es generalizing t with
  | nil => simpa [layEntriesOver] using h
  | cons e es ih =>
    obtain ⟨k, v⟩ := e
    obtain ⟨fs, o, rfl, -⟩ := htables _ List.mem_cons_self
    rw [layEntriesOver, layOver]
    exact ih h.put fun e he => htables e (List.mem_cons_of_mem _ he)

/-- A source with groups replaces the settings that it names and no others. -/
theorem leaf_layer_of_grouped (hes : Grouped es) :
    leaf group name (layer es t) =
      ((leaf group name es).map fun v => v.layOver (entry name (entry group t).entries)).or
        (leaf group name t) := by
  rw [layer_eq_layEntriesOver hes.plain]
  have hlookup := @lookup_layEntriesOver group t es hes.nodup
  unfold leaf
  cases hg : Table.lookup group es with
  | none =>
    rw [hg, Option.map_none, Option.none_or] at hlookup
    rw [entry_of_lookup_eq_none hg, entry, hlookup]
    rfl
  | some v =>
    obtain ⟨fs, o, rfl, hn⟩ := hes.tables _ (Table.mem_of_lookup hg)
    rw [hg, Option.map_some, Option.some_or, layOver] at hlookup
    rw [entry_of_lookup hg, entry_of_lookup hlookup]
    exact lookup_layEntriesOver hn

/-! ### Settings under paths -/

/-- A key leads away from a setting: to another group, or to another entry of the same one. -/
def Apart (group name key : String) : Prop :=
  (Step.ofKey key).1 ≠ group ∨ ∃ n r, (Step.ofKey key).2 = .key n :: r ∧ n ≠ name

/-- Whether a step leads to an entry of another name. -/
def Step.misses (name : String) : Step → Bool
  | .key n => n != name
  | .index _ => false

instance : Decidable (Apart group name key) :=
  decidable_of_iff ((Step.ofKey key).1 ≠ group ∨
      (Step.ofKey key).2.head?.any (Step.misses name) = true) <| by
    refine or_congr_right ?_
    rcases (Step.ofKey key).2 with _ | ⟨_ | _, r⟩ <;> simp [Step.misses]

lemma leaf_assign_of_apart (h : Apart group name key) :
    leaf group name (assign key v t) = leaf group name t := by
  unfold leaf
  by_cases hg : (Step.ofKey key).1 = group
  · obtain hne | ⟨n, r, hr, hn⟩ := h
    · exact absurd hg hne
    · simp only [assign, hr, hg, entry_put_self, place]
      exact Table.lookup_put_of_ne (Ne.symm hn) _ _
  · rw [assign, entry_put_of_ne (Ne.symm hg)]

lemma leaf_layer_of_apart (h : ∀ e ∈ es, Apart group name e.1) :
    leaf group name (layer es t) = leaf group name t := by
  induction es generalizing t with
  | nil => rfl
  | cons e es ih =>
    have hes := ih (t := assign e.1 e.2 t) fun e he => h e (List.mem_cons_of_mem _ he)
    rw [leaf_assign_of_apart (h e List.mem_cons_self)] at hes
    exact hes

lemma leaf_assign_path {s : Scalar} {o : Option Origin}
    (h : Step.ofKey key = (group, [.key name])) :
    leaf group name (assign key (.scalar s o) t) = some (.scalar s o) := by
  rw [leaf, assign, h]
  simp only [entry_put_self, place, layOver_scalar]
  exact Table.lookup_put_self _ _ _

/-- A setting has the value that a source gives it under its path, if no other key of the source
leads to it. -/
theorem leaf_layer_of_mem {s : Scalar} {o : Option Origin}
    (hkey : Step.ofKey key = (group, [.key name])) (hmem : (key, .scalar s o) ∈ es)
    (hes : ∀ e ∈ es, e = (key, .scalar s o) ∨ Apart group name e.1) :
    leaf group name (layer es t) = some (.scalar s o) := by
  induction es generalizing t with
  | nil => cases hmem
  | cons e es ih =>
    have hrest := fun e he => hes e (List.mem_cons_of_mem _ he)
    -- The last of several entries decides, and all that lead here are the same.
    by_cases hlater : (key, .scalar s o) ∈ es
    · exact ih hlater hrest
    · have he : e = (key, .scalar s o) :=
        ((List.mem_cons.1 hmem).resolve_right hlater).symm
      have hapart : ∀ e ∈ es, Apart group name e.1 := fun e he =>
        (hrest e he).resolve_left fun heq => hlater (heq ▸ he)
      have hfirst : layer (e :: es) t = layer es (assign e.1 e.2 t) := rfl
      rw [hfirst, leaf_layer_of_apart hapart, he]
      exact leaf_assign_path hkey

lemma Tabular.layer_of_paths (h : Tabular t)
    (hes : ∀ e ∈ es, ∃ group name, Step.ofKey e.1 = (group, [.key name])) :
    Tabular (Setting.layer es t) := by
  induction es generalizing t with
  | nil => exact h
  | cons e es ih =>
    obtain ⟨group, name, hkey⟩ := hes e List.mem_cons_self
    have hassign : Tabular (assign e.1 e.2 t) := by
      rw [assign, hkey]
      exact h.put
    exact ih hassign fun e he => hes e (List.mem_cons_of_mem _ he)

end LiveTelemetry.Setting
