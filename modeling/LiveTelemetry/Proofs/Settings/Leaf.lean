import LiveTelemetry.Proofs.Schema.Field
import LiveTelemetry.Proofs.Settings.Merge
import LiveTelemetry.Settings.Load

/-!
The single settings. Main statement: settings are read from a table one by one, each from the entry
under its name in its group or from its default.
-/
namespace LiveTelemetry

lemma LogFormat.ofDatum?_eq_some {d : Datum} {f : LogFormat} :
    LogFormat.codec.ofDatum? d = some f ↔ d = .choice f.name := by
  cases d with
  | choice tag =>
    simp only [codec, Datum.choice.injEq]
    unfold ofName?
    split <;> cases f <;> simp_all [name]
  | _ => simp [codec]

lemma Codec.ofSetting_eq_ok_iff {α : Type} {cd : Codec α} {v : Setting} {a : α} :
    cd.ofSetting v = .ok a ↔ ∃ d, cd.schema.ofSetting v = .ok d ∧ cd.ofDatum? d = some a := by
  unfold Codec.ofSetting
  cases cd.schema.ofSetting v with
  | error f => simp
  | ok d => cases h : cd.ofDatum? d <;> simp [h, Schema.misshapen]

namespace Settings

/-- A setting that is no group of others. -/
inductive Leaf where
  | url
  | vendor
  | reconnectInterval
  | autoReconnect
  | connectTimeout
  | apiUrl
  | requestTimeout
  | maxDataPoints
  | maxEvents
  | notificationsEnabled
  | notificationWindow
  | token
  | level
  | format
  deriving DecidableEq

namespace Leaf

def group : Leaf → String
  | url | vendor | reconnectInterval | autoReconnect | connectTimeout => "channel"
  | apiUrl | requestTimeout => "control"
  | maxDataPoints | maxEvents | notificationsEnabled | notificationWindow => "history"
  | token => "auth"
  | level | format => "logging"

def name : Leaf → String
  | url => "url"
  | vendor => "vendor"
  | reconnectInterval => "reconnect_interval_ms"
  | autoReconnect => "auto_reconnect"
  | connectTimeout => "connect_timeout_ms"
  | apiUrl => "api_url"
  | requestTimeout => "request_timeout_seconds"
  | maxDataPoints => "max_data_points"
  | maxEvents => "max_events"
  | notificationsEnabled => "notifications_enabled"
  | notificationWindow => "notification_window_ms"
  | token => "token"
  | level => "level"
  | format => "format"

def schema : Leaf → Schema
  | url | vendor | apiUrl | level => .text
  | autoReconnect | notificationsEnabled => .flag
  | maxDataPoints | maxEvents => .size
  | reconnectInterval | connectTimeout | requestTimeout | notificationWindow => .uint64
  | token => .optional .text
  | format => LogFormat.codec.schema

/-- What a setting is in given settings. -/
def value (c : Settings) : Leaf → Datum
  | url => .text c.channel.url
  | vendor => .text c.channel.vendor
  | reconnectInterval => .ofUInt64 c.channel.reconnectInterval
  | autoReconnect => .flag c.channel.autoReconnect
  | connectTimeout => .ofUInt64 c.channel.connectTimeout
  | apiUrl => .text c.control.apiUrl
  | requestTimeout => .ofUInt64 c.control.requestTimeout
  | maxDataPoints => .ofUInt64 c.history.maxDataPoints
  | maxEvents => .ofUInt64 c.history.maxEvents
  | notificationsEnabled => .flag c.history.notificationsEnabled
  | notificationWindow => .ofUInt64 c.history.notificationWindow
  | token => .ofOptionText c.auth.token
  | level => .text c.logging.level
  | format => .choice c.logging.format.name

/-- The settings of each group, in the order of its record. -/
def channel : List Leaf := [url, vendor, reconnectInterval, autoReconnect, connectTimeout]

def control : List Leaf := [apiUrl, requestTimeout]

def history : List Leaf := [maxDataPoints, maxEvents, notificationsEnabled, notificationWindow]

def auth : List Leaf := [token]

def logging : List Leaf := [level, format]

def all : List Leaf := channel ++ control ++ history ++ auth ++ logging

lemma mem_all (l : Leaf) : l ∈ all := by
  cases l <;> decide

instance {p : Leaf → Prop} [DecidablePred p] : Decidable (∀ l, p l) :=
  decidable_of_iff (∀ l ∈ all, p l) ⟨fun h l => h l (mem_all l), fun h l _ => h l⟩

instance {p : Leaf → Prop} [DecidablePred p] : Decidable (∃ l, p l) :=
  decidable_of_iff (∃ l ∈ all, p l) ⟨fun ⟨l, _, h⟩ => ⟨l, h⟩, fun ⟨l, h⟩ => ⟨l, mem_all l, h⟩⟩

/-- The field of a setting in the record of its group. -/
def field (l : Leaf) : String × Schema × Option Datum :=
  Schema.withDefault l.name l.schema (l.value standard)

end Leaf

open Schema

variable {t es : Table Setting} {c : Settings} {d : Datum} {group type : String}

/-- A group that can be read as a record: a table in order, or none at all. -/
def Readable (group : String) (t : Table Setting) : Prop :=
  ∀ v, Table.lookup group t = some v → ∃ es o, v = .table es o ∧ Table.Sorted es

/-- What a group holds is read from it, and a group that is missing counts as empty. -/
lemma fieldsRead_of_group {fs : List (String × Schema × Option Datum)}
    {out : List (String × Datum)} (hn : (fs.map Prod.fst).Nodup)
    (hout : FieldsRead ofSetting ([] : Table Setting) fs out) (hgroup : Readable group t)
    (h : FieldReads ofSetting t (withDefault group (.record type fs) (.record out)) d) :
    ∃ out, FieldsRead ofSetting (Setting.entry group t).entries fs out ∧ d = .record out := by
  unfold FieldReads withDefault at h
  dsimp only at h
  cases hv : Table.lookup group t with
  | none =>
    rw [hv] at h
    cases h
    rw [Setting.entry_of_lookup_eq_none hv]
    exact ⟨out, hout, rfl⟩
  | some v =>
    obtain ⟨es, o, rfl, hs⟩ := hgroup v hv
    rw [hv] at h
    rw [Setting.entry_of_lookup hv]
    exact (ofSetting_record_eq_ok_iff hs hn).1 h

/-- The settings of a list with what they are. -/
def Leaf.values (c : Settings) (ls : List Leaf) : List (String × Datum) :=
  ls.map fun l => (l.name, l.value c)

lemma fieldsRead_default (ls : List Leaf) :
    FieldsRead ofSetting ([] : Table Setting) (ls.map Leaf.field) (Leaf.values standard ls) := by
  induction ls with
  | nil => exact .nil
  | cons l ls ih => exact .cons ⟨rfl, rfl⟩ ih

/-- A group is converted from what its settings are read as. -/
lemma exists_fieldsRead_of_group {σ : Type} {cd : Codec σ} {ls : List Leaf} {s : σ}
    (hschema : cd.schema = .record type (ls.map Leaf.field)) (hn : (ls.map Leaf.name).Nodup)
    (hgroup : Readable group t)
    (hd : FieldReads ofSetting t
      (withDefault group cd.schema (.record (Leaf.values standard ls))) d)
    (hs : cd.ofDatum? d = some s) :
    ∃ out, FieldsRead ofSetting (Setting.entry group t).entries (ls.map Leaf.field) out ∧
      cd.ofDatum? (.record out) = some s := by
  have hnames : (ls.map Leaf.field).map Prod.fst = ls.map Leaf.name := by
    rw [List.map_map]
    rfl
  rw [hschema] at hd
  obtain ⟨out, hout, rfl⟩ := fieldsRead_of_group (hnames ▸ hn) (fieldsRead_default ls) hgroup hd
  exact ⟨out, hout, hs⟩

/-! ### Groups -/

lemma reads_of_channel (h : ∃ out, FieldsRead ofSetting es (Leaf.channel.map Leaf.field) out ∧
    ChannelSettings.codec.ofDatum? (.record out) = some c.channel) :
    ∀ l ∈ Leaf.channel, FieldReads ofSetting es l.field (l.value c) := by
  simp only [Leaf.channel, List.map_cons, List.map_nil, exists_fieldsRead_cons,
    exists_fieldsRead_nil, ChannelSettings.codec, Option.bind_eq_bind, Option.bind_eq_some_iff,
    Datum.text?_eq_some, Datum.uint64?_eq_some, Datum.flag?_eq_some, Option.pure_def,
    Option.some.injEq] at h
  obtain ⟨_, h₁, _, h₂, _, h₃, _, h₄, _, h₅, _, rfl, _, rfl, _, rfl, _, rfl, _, rfl, h⟩ := h
  simp only [Leaf.channel, List.forall_mem_cons, Leaf.value, ← h]
  exact ⟨h₁, h₂, h₃, h₄, h₅, fun _ hl => by cases hl⟩

lemma reads_of_control (h : ∃ out, FieldsRead ofSetting es (Leaf.control.map Leaf.field) out ∧
    ControlSettings.codec.ofDatum? (.record out) = some c.control) :
    ∀ l ∈ Leaf.control, FieldReads ofSetting es l.field (l.value c) := by
  simp only [Leaf.control, List.map_cons, List.map_nil, exists_fieldsRead_cons,
    exists_fieldsRead_nil, ControlSettings.codec, Option.bind_eq_bind, Option.bind_eq_some_iff,
    Datum.text?_eq_some, Datum.uint64?_eq_some, Option.pure_def, Option.some.injEq] at h
  obtain ⟨_, h₁, _, h₂, _, rfl, _, rfl, h⟩ := h
  simp only [Leaf.control, List.forall_mem_cons, Leaf.value, ← h]
  exact ⟨h₁, h₂, fun _ hl => by cases hl⟩

lemma reads_of_history (h : ∃ out, FieldsRead ofSetting es (Leaf.history.map Leaf.field) out ∧
    HistorySettings.codec.ofDatum? (.record out) = some c.history) :
    ∀ l ∈ Leaf.history, FieldReads ofSetting es l.field (l.value c) := by
  simp only [Leaf.history, List.map_cons, List.map_nil, exists_fieldsRead_cons,
    exists_fieldsRead_nil, HistorySettings.codec, Option.bind_eq_bind, Option.bind_eq_some_iff,
    Datum.uint64?_eq_some, Datum.flag?_eq_some, Option.pure_def, Option.some.injEq] at h
  obtain ⟨_, h₁, _, h₂, _, h₃, _, h₄, _, rfl, _, rfl, _, rfl, _, rfl, h⟩ := h
  simp only [Leaf.history, List.forall_mem_cons, Leaf.value, ← h]
  exact ⟨h₁, h₂, h₃, h₄, fun _ hl => by cases hl⟩

lemma reads_of_auth (h : ∃ out, FieldsRead ofSetting es (Leaf.auth.map Leaf.field) out ∧
    AuthSettings.codec.ofDatum? (.record out) = some c.auth) :
    ∀ l ∈ Leaf.auth, FieldReads ofSetting es l.field (l.value c) := by
  simp only [Leaf.auth, List.map_cons, List.map_nil, exists_fieldsRead_cons,
    exists_fieldsRead_nil, AuthSettings.codec, Option.map_eq_some_iff,
    Datum.optional?_text?_eq_some] at h
  obtain ⟨_, h₁, _, rfl, h⟩ := h
  simp only [Leaf.auth, List.forall_mem_cons, Leaf.value, ← h]
  exact ⟨h₁, fun _ hl => by cases hl⟩

lemma reads_of_logging (h : ∃ out, FieldsRead ofSetting es (Leaf.logging.map Leaf.field) out ∧
    LoggingSettings.codec.ofDatum? (.record out) = some c.logging) :
    ∀ l ∈ Leaf.logging, FieldReads ofSetting es l.field (l.value c) := by
  simp only [Leaf.logging, List.map_cons, List.map_nil, exists_fieldsRead_cons,
    exists_fieldsRead_nil, LoggingSettings.codec, Option.bind_eq_bind, Option.bind_eq_some_iff,
    Datum.text?_eq_some, LogFormat.ofDatum?_eq_some, Option.pure_def, Option.some.injEq] at h
  obtain ⟨_, h₁, _, h₂, _, rfl, _, rfl, h⟩ := h
  simp only [Leaf.logging, List.forall_mem_cons, Leaf.value, ← h]
  exact ⟨h₁, h₂, fun _ hl => by cases hl⟩

lemma ofTable_eq_ok_iff :
    ofTable t = .ok c ↔ codec.ofSetting (.table t none) = .ok c ∧ c.check = .ok () := by
  unfold ofTable
  cases codec.ofSetting (.table t none) with
  | error f => simp
  | ok s =>
    dsimp only
    cases hs : s.check with
    | error f =>
      refine iff_of_false (fun h => by cases h) fun h => ?_
      rw [← Except.ok.inj h.1, hs] at h
      cases h.2
    | ok u =>
      constructor
      · intro h
        cases h
        exact ⟨rfl, hs⟩
      · rintro ⟨h, -⟩
        cases h
        rfl

lemma fieldReads_of_ofSetting {o : Option Setting.Origin} (hs : Table.Sorted t)
    (h : codec.ofSetting (.table t o) = .ok c) (l : Leaf) (hgroup : Readable l.group t) :
    FieldReads ofSetting (Setting.entry l.group t).entries l.field (l.value c) := by
  obtain ⟨d, hd, hc⟩ := Codec.ofSetting_eq_ok_iff.1 h
  obtain ⟨out, hout, rfl⟩ := (ofSetting_record_eq_ok_iff hs (by decide)).1 hd
  have hall : ∃ out, FieldsRead ofSetting t
      [withDefault "channel" ChannelSettings.codec.schema standard.channel.toDatum,
        withDefault "control" ControlSettings.codec.schema standard.control.toDatum,
        withDefault "history" HistorySettings.codec.schema standard.history.toDatum,
        withDefault "auth" AuthSettings.codec.schema standard.auth.toDatum,
        withDefault "logging" LoggingSettings.codec.schema standard.logging.toDatum] out ∧
      codec.ofDatum? (.record out) = some c := ⟨out, hout, hc⟩
  simp only [exists_fieldsRead_cons, exists_fieldsRead_nil, codec, Option.bind_eq_bind,
    Option.bind_eq_some_iff, Option.pure_def, Option.some.injEq] at hall
  obtain ⟨_, h₁, _, h₂, _, h₃, _, h₄, _, h₅, _, hc₁, _, hc₂, _, hc₃, _, hc₄, _, hc₅, rfl⟩ := hall
  cases l with
  | url | vendor | reconnectInterval | autoReconnect | connectTimeout =>
    refine reads_of_channel ?_ _ (by decide)
    exact exists_fieldsRead_of_group rfl (by decide) hgroup h₁ hc₁
  | apiUrl | requestTimeout =>
    refine reads_of_control ?_ _ (by decide)
    exact exists_fieldsRead_of_group rfl (by decide) hgroup h₂ hc₂
  | maxDataPoints | maxEvents | notificationsEnabled | notificationWindow =>
    refine reads_of_history ?_ _ (by decide)
    exact exists_fieldsRead_of_group rfl (by decide) hgroup h₃ hc₃
  | token =>
    refine reads_of_auth ?_ _ (by decide)
    exact exists_fieldsRead_of_group rfl (by decide) hgroup h₄ hc₄
  | level | format =>
    refine reads_of_logging ?_ _ (by decide)
    exact exists_fieldsRead_of_group rfl (by decide) hgroup h₅ hc₅

/-- Each setting is read from the entry under its name in its group, or from its default. -/
theorem leaf_of_ofTable (ht : Setting.Tidy t) (h : ofTable t = .ok c) {l : Leaf}
    (hgroup : ∀ v, Table.lookup l.group t = some v → ∃ fs o, v = .table fs o) :
    match Setting.leaf l.group l.name t with
    | some v => l.schema.ofSetting v = .ok (l.value c)
    | none => l.value c = l.value standard := by
  have hreadable : Readable l.group t := by
    intro v hv
    obtain ⟨fs, o, rfl⟩ := hgroup v hv
    have hsorted := ht.groups l.group
    rw [Setting.entry_of_lookup hv] at hsorted
    exact ⟨fs, o, rfl, hsorted⟩
  have hfield := fieldReads_of_ofSetting ht.sorted (ofTable_eq_ok_iff.1 h).1 l hreadable
  unfold FieldReads Leaf.field withDefault at hfield
  dsimp only at hfield
  unfold Setting.leaf
  cases hv : Table.lookup l.name (Setting.entry l.group t).entries with
  | none =>
    rw [hv] at hfield
    exact (Option.some.inj hfield).symm
  | some v =>
    rw [hv] at hfield
    exact hfield

end Settings
end LiveTelemetry
