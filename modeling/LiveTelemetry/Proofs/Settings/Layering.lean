import LiveTelemetry.Proofs.Settings.Leaf
import LiveTelemetry.Proofs.Settings.Source
import Mathlib.Data.List.Nodup

/-!
Settings from several sources. Main statement: each setting has the value of its variable, or else
that of the file of the deployment, or else that of the default file, or else its default, whatever
the sources say about other settings.
-/
namespace LiveTelemetry

open Setting (Tidy Tabular leaf)

namespace Settings

namespace Leaf

/-- The key by which variables set a setting. -/
def key (l : Leaf) : String := l.group ++ "." ++ l.name

lemma ofKey_key (l : Leaf) : Setting.Step.ofKey l.key = (l.group, [.key l.name]) := by
  cases l <;> decide +kernel

lemma eq_of_group_name {l m : Leaf} (hg : l.group = m.group) (hn : l.name = m.name) : l = m := by
  revert hg hn
  cases l <;> cases m <;> decide

/-- The key of one setting leads away from all others. -/
lemma apart_key {l m : Leaf} (h : m ≠ l) : Setting.Apart l.group l.name m.key := by
  rw [Setting.Apart, ofKey_key]
  by_cases hg : m.group = l.group
  · exact .inr ⟨m.name, [], rfl, fun hn => h (eq_of_group_name hg hn)⟩
  · exact .inl hg

end Leaf

/-- A word of a choice stays the same word when its table is laid over another one. -/
lemma settingChoice_layOver {type : String} {tags : List String} {fs : List (String × Setting)}
    {o : Option Setting.Origin} {old : Setting} {d d' : Datum}
    (h : Schema.settingChoice type tags (.table fs o) = .ok d)
    (h' : Schema.settingChoice type tags ((Setting.table fs o).layOver old) = .ok d') : d' = d := by
  have hone : ∀ {fs o d}, Schema.settingChoice type tags (.table fs o) = .ok d →
      ∃ tag v, fs = [(tag, v)] ∧ d = .choice tag := by
    intro fs o d h
    unfold Schema.settingChoice at h
    dsimp only at h
    split at h
    · next heq => cases heq
    · next tag v _ heq =>
      cases heq
      split_ifs at h
      · cases h
        exact ⟨tag, v, rfl, rfl⟩
      · cases h
    · cases h
  obtain ⟨tag, v, rfl, rfl⟩ := hone h
  rw [Setting.layOver, Setting.layEntriesOver, Setting.layEntriesOver] at h'
  obtain ⟨tag', v', hput, rfl⟩ := hone h'
  have hkey : tag ∈ Table.keys [(tag', v')] := by
    rw [← hput, Table.mem_keys_put]
    exact .inl rfl
  rw [List.mem_singleton.1 hkey]

/-- What a setting is converted to does not depend on what it is laid over. -/
lemma ofSetting_layOver {l : Leaf} {v old : Setting} {d d' : Datum}
    (h : l.schema.ofSetting v = .ok d) (h' : l.schema.ofSetting (v.layOver old) = .ok d') :
    d' = d := by
  cases v with
  | scalar s o =>
    rw [Setting.layOver_scalar, h] at h'
    exact (Except.ok.inj h').symm
  | list xs o =>
    rw [Setting.layOver_list, h] at h'
    exact (Except.ok.inj h').symm
  | table fs o =>
    -- Of all settings, only a choice can be read from a table.
    cases l with
    | format => exact settingChoice_layOver h h'
    | _ =>
      simp [Leaf.schema, Schema.size, Schema.uint64, Schema.ofSetting, Schema.settingText,
        Schema.settingFlag, Schema.settingWord, Schema.unconverted, Except.map] at h

/-! ### Sources -/

/-- What a file says. One that is missing says nothing. -/
def Sources.file (s : Sources) (name : String) : List (String × Setting) :=
  (Setting.ofFile? name s.files).getD []

def Sources.variables (s : Sources) : List (String × Setting) := Setting.ofVariables s.environment

/-- What the sources of a deployment say about a setting: its variable comes first, then the file of
the deployment, then the default file. -/
def Leaf.used (l : Leaf) (s : Sources) (deployment : String) : Option Setting :=
  (Table.lookup l.key s.variables).or <|
    (leaf l.group l.name (s.file deployment)).or (leaf l.group l.name (s.file baseName))

/-- The sources of a deployment give settings in their groups, each variable its own one, and what
counts can be converted. -/
structure Sources.Plain (s : Sources) (deployment : String) : Prop where
  files : ∀ name ∈ [baseName, deployment], Setting.GivesTables (s.file name)
  known : ∀ e ∈ s.variables, ∃ l : Leaf, e.1 = l.key
  single : (s.variables.map Prod.fst).Nodup
  convertible : ∀ l : Leaf, ∀ v ∈ l.used s deployment, ∃ d, l.schema.ofSetting v = .ok d

instance {ε α : Type} : (e : Except ε α) → Decidable (∃ a, e = .ok a)
  | .ok a => .isTrue ⟨a, rfl⟩
  | .error _ => .isFalse fun ⟨_, h⟩ => by cases h

instance (s : Sources) (deployment : String) : Decidable (s.Plain deployment) :=
  decidable_of_iff
    ((∀ name ∈ [baseName, deployment], Setting.GivesTables (s.file name)) ∧
      (∀ e ∈ s.variables, ∃ l : Leaf, e.1 = l.key) ∧ (s.variables.map Prod.fst).Nodup ∧
      ∀ l : Leaf, ∀ v ∈ l.used s deployment, ∃ d, l.schema.ofSetting v = .ok d)
    ⟨fun ⟨h₁, h₂, h₃, h₄⟩ => ⟨h₁, h₂, h₃, h₄⟩, fun ⟨h₁, h₂, h₃, h₄⟩ => ⟨h₁, h₂, h₃, h₄⟩⟩

variable {s : Sources} {deployment : String} {t : Table Setting} {l : Leaf} {c : Settings}

lemma exists_scalar_of_mem_ofVariables {environment : List (String × String)}
    {e : String × Setting} (h : e ∈ Setting.ofVariables environment) :
    ∃ x o, e.2 = .scalar x o := by
  obtain ⟨⟨name, v⟩, -, he⟩ := List.mem_filterMap.1 h
  obtain ⟨k, -, rfl⟩ := Option.map_eq_some_iff.1 he
  exact ⟨_, _, rfl⟩

/-- Variables replace the settings that they name and no others. -/
lemma leaf_layer_variables (hs : s.Plain deployment) (l : Leaf) :
    leaf l.group l.name (Setting.layer s.variables t) =
      (Table.lookup l.key s.variables).or (leaf l.group l.name t) := by
  have hapart : ∀ e ∈ s.variables, e.1 ≠ l.key → Setting.Apart l.group l.name e.1 := by
    intro e he hne
    obtain ⟨m, hm⟩ := hs.known e he
    rw [hm] at hne ⊢
    exact Leaf.apart_key fun hml => hne (congrArg Leaf.key hml)
  cases hv : Table.lookup l.key s.variables with
  | none =>
    rw [Option.none_or]
    refine Setting.leaf_layer_of_apart fun e he => hapart e he fun hkey => ?_
    have hmem : l.key ∈ Table.keys s.variables := hkey ▸ List.mem_map_of_mem he
    rw [← Table.lookup_isSome_iff, hv] at hmem
    cases hmem
  | some v =>
    have hmem := Table.mem_of_lookup hv
    obtain ⟨x, o, hx⟩ := exists_scalar_of_mem_ofVariables hmem
    obtain rfl : v = .scalar x o := hx
    rw [Option.some_or]
    refine Setting.leaf_layer_of_mem l.ofKey_key hmem fun e he => ?_
    by_cases hkey : e.1 = l.key
    · exact .inl (List.inj_on_of_nodup_map hs.single he hmem hkey)
    · exact .inr (hapart e he hkey)

lemma tabular_nil : Tabular [] := fun _ _ h => by cases h

/-- The sources of a deployment laid over each other: a table in order, of tables, which holds each
setting as it counts. -/
lemma exists_merge (hs : s.Plain deployment) (h : s.merge? deployment = some t) :
    Tidy t ∧ Tabular t ∧
      ∃ old : Leaf → Setting, ∀ l : Leaf, leaf l.group l.name t =
        (l.used s deployment).map fun v => v.layOver (old l) := by
  obtain ⟨base, hbase, h⟩ := Option.bind_eq_some_iff.1 h
  obtain ⟨overlay, hoverlay, h⟩ := Option.bind_eq_some_iff.1 h
  cases h
  have hbfile : s.file baseName = base := by rw [Sources.file, hbase, Option.getD_some]
  have hofile : s.file deployment = overlay := by rw [Sources.file, hoverlay, Option.getD_some]
  have hbgrouped : Setting.Grouped base :=
    Setting.grouped_of_ofFile? hbase (hbfile ▸ hs.files _ (by simp))
  have hogrouped : Setting.Grouped overlay :=
    Setting.grouped_of_ofFile? hoverlay (hofile ▸ hs.files _ (by simp))
  have hpaths : ∀ e ∈ s.variables, ∃ group name, Setting.Step.ofKey e.1 = (group, [.key name]) := by
    intro e he
    obtain ⟨m, hm⟩ := hs.known e he
    exact ⟨m.group, m.name, hm ▸ m.ofKey_key⟩
  refine ⟨Setting.tidy_nil.layer.layer.layer, ?_, ?_⟩
  · exact ((tabular_nil.layer hbgrouped).layer hogrouped).layer_of_paths hpaths
  · have hone : ∀ l : Leaf, ∃ old : Setting,
        leaf l.group l.name (Setting.layer s.variables
          (Setting.layer overlay (Setting.layer base []))) =
        (l.used s deployment).map fun v => v.layOver old := by
      intro l
      rw [leaf_layer_variables hs, Setting.leaf_layer_of_grouped hogrouped,
        Setting.leaf_layer_of_grouped hbgrouped, Leaf.used, hbfile, hofile]
      cases hv : Table.lookup l.key s.variables with
      | some v =>
        obtain ⟨x, o, hx⟩ := exists_scalar_of_mem_ofVariables (Table.mem_of_lookup hv)
        obtain rfl : v = .scalar x o := hx
        exact ⟨Setting.null, by simp⟩
      | none =>
        cases leaf l.group l.name overlay with
        | some v => exact ⟨_, by simp; rfl⟩
        | none =>
          cases leaf l.group l.name base with
          | some v => exact ⟨_, by simp; rfl⟩
          | none => exact ⟨Setting.null, rfl⟩
    exact ⟨fun l => (hone l).choose, fun l => (hone l).choose_spec⟩

/-- What the sources say about a setting is what it is; where they say nothing, it is the default. -/
def Leaf.Decided (l : Leaf) (s : Sources) (deployment : String) (c : Settings) : Prop :=
  match l.used s deployment with
  | some v => l.schema.ofSetting v = .ok (l.value c)
  | none => l.value c = l.value standard

lemma decided_of_load (hs : s.Plain deployment) (h : load s deployment = .ok c) (l : Leaf) :
    l.Decided s deployment c := by
  unfold load at h
  split at h
  · cases h
  · next t ht =>
    obtain ⟨htidy, htabular, old, hleaf⟩ := exists_merge hs ht
    have hread := leaf_of_ofTable htidy h (l := l) fun v hv => htabular _ v hv
    rw [hleaf l] at hread
    unfold Leaf.Decided
    cases hu : l.used s deployment with
    | none =>
      rw [hu] at hread
      exact hread
    | some v =>
      rw [hu] at hread
      obtain ⟨d, hd⟩ := hs.convertible l v hu
      rw [ofSetting_layOver hd hread]
      exact hd

/-- A file is missing or holds no settings. -/
def Silent (name : String) (files : Table String) : Prop :=
  ∀ f ∈ Setting.find? name files,
    Setting.readEntries? f.format (some (.file f.path)) f.content = some []

lemma ofFile?_of_silent {name : String} {files : Table String} (h : Silent name files) :
    Setting.ofFile? name files = some [] := by
  unfold Setting.ofFile?
  cases hf : Setting.find? name files with
  | none => rfl
  | some f => exact h f hf

/-- Files count by what they say, and one that is missing says as much as an empty one. -/
lemma load_of_silent {files : Table String}
    (h : ∀ name ∈ [baseName, deployment], Setting.find? name files = Setting.find? name s.files ∨
      Silent name files ∧ Silent name s.files) :
    load ⟨files, s.environment⟩ deployment = load s deployment := by
  have hsame : ∀ name ∈ [baseName, deployment],
      Setting.ofFile? name files = Setting.ofFile? name s.files := by
    intro name hname
    obtain hfind | ⟨hnew, hold⟩ := h name hname
    · rw [Setting.ofFile?, Setting.ofFile?, hfind]
    · rw [ofFile?_of_silent hnew, ofFile?_of_silent hold]
  rw [load, load, Sources.merge?, Sources.merge?, hsame baseName (by simp),
    hsame deployment (by simp)]

/-- Settings are loaded one by one: each is what its sources decide, whatever else they say; a
missing file counts as one without settings; and what is loaded can be used. -/
theorem load_by_setting (s : Sources) (deployment : String) (c : Settings)
    (hs : s.Plain deployment) (h : load s deployment = .ok c) :
    (∀ l : Leaf, l.Decided s deployment c) ∧
      (∀ (s' : Sources) (deployment' : String) (c' : Settings), s'.Plain deployment' →
        load s' deployment' = .ok c' → ∀ l : Leaf,
        l.used s' deployment' = l.used s deployment → l.value c' = l.value c) ∧
      (∀ files : Table String, (∀ name ∈ [baseName, deployment],
          Setting.find? name files = Setting.find? name s.files ∨
            Silent name files ∧ Silent name s.files) →
        load ⟨files, s.environment⟩ deployment = .ok c) ∧
      c.check = .ok () := by
  refine ⟨decided_of_load hs h, ?_, fun files hfiles => (load_of_silent hfiles).trans h,
    check_of_load h⟩
  intro s' deployment' c' hs' h' l hused
  have hl : l.Decided s deployment c := decided_of_load hs h l
  have hl' : l.Decided s' deployment' c' := decided_of_load hs' h' l
  unfold Leaf.Decided at hl hl'
  rw [hused] at hl'
  cases hu : l.used s deployment with
  | none =>
    rw [hu] at hl hl'
    exact hl'.trans hl.symm
  | some v =>
    rw [hu] at hl hl'
    exact Except.ok.inj (hl'.symm.trans hl)

/-- A document without text holds no settings. -/
example : (Setting.readEntries? .toml none "").map List.length = some 0 := by decide +kernel

/-- A default file, one for a deployment, and variables. -/
def layeredSources : Sources :=
  ⟨[("default.toml", "[channel]\nurl = \"ws://a/\"\nvendor = \"x\"\n[history]\nmax_events = 7"),
      ("test.json", "\x7b\"channel\":\x7b\"vendor\":\"y\",\"auto_reconnect\":false\x7d," ++
        "\"logging\":\x7b\"format\":\x7b\"json\":null\x7d\x7d\x7d")],
    [("PATH", "/bin"), ("NETPULSE__HISTORY__MAX_EVENTS", "9"), ("NETPULSE__AUTH__TOKEN", "t")]⟩

theorem load_by_setting_layered :
    let c : Settings :=
      { channel := { url := "ws://a/", vendor := "y", autoReconnect := false },
        history := { maxEvents := 9 }, auth := ⟨some "t"⟩, logging := { format := .json } }
    layeredSources.Plain "test" ∧ load layeredSources "test" = .ok c ∧
      ∀ l : Leaf, l.Decided layeredSources "test" c := by
  intro c
  have hs : layeredSources.Plain "test" := by decide +kernel
  have h : load layeredSources "test" = .ok c := by decide +kernel
  exact ⟨hs, h, (load_by_setting layeredSources "test" c hs h).1⟩

end Settings
end LiveTelemetry
