import LiveTelemetry.Channel.Counters
import LiveTelemetry.Link.Statistics
import LiveTelemetry.Proofs.Schema.Field
import LiveTelemetry.Proofs.Schema.Printed
import LiveTelemetry.Reading.Sample
import LiveTelemetry.Settings.Basic

/-!
What is printed is read back. Main statement: statistics, counters, what messages say about devices
and settings are read from their text as they were, whatever order the fields of its objects are
written in.
-/
namespace LiveTelemetry

/-- A value is written in the shape of its codec, and is told from what is written. -/
structure Codec.Faithful {α : Type} (c : Codec α) (depth : Nat) (a : α) : Prop where
  fits : Schema.Fits depth c.schema (c.toDatum a)
  told : c.ofDatum? (c.toDatum a) = some a

/-- Every text of a value, with fields in any order, is read as this value. -/
def Codec.ReadsBack {α : Type} (c : Codec α) (a : α) : Prop :=
  ∀ j, (c.toJson a).Rearranges j → c.parse j.render = .ok a

lemma Codec.Faithful.readsBack {α : Type} {c : Codec α} {a : α} (h : c.Faithful 127 a) :
    c.ReadsBack a := by
  intro j hj
  unfold Codec.parse
  rw [h.fits.parse hj]
  dsimp only
  rw [h.told]

namespace Schema

variable {depth : Nat}

lemma fits_uint64 {name : String} (n : UInt64) :
    Fits depth (.word name 0 (UInt64.size - 1)) (.ofUInt64 n) := by
  have hsize : UInt64.size = 18446744073709551616 := rfl
  have hn := n.toNat_lt
  exact .word (by omega) (by unfold IsWord; omega)

lemma fits_uint32 (n : UInt32) : Fits depth .uint32 (.ofUInt32 n) := by
  have hsize : UInt64.size = 18446744073709551616 := rfl
  have hsize' : UInt32.size = 4294967296 := rfl
  have hn := n.toNat_lt
  exact .word (by omega) (by unfold IsWord; omega)

lemma fits_int32 (n : Int32) : Fits depth .int32 (.ofInt32 n) := by
  have hsize : UInt64.size = 18446744073709551616 := rfl
  have hlow := n.le_toInt
  have hhigh := n.toInt_lt
  exact .word (by omega) (by unfold IsWord; omega)

lemma fits_ofOption {α : Type} {item : Schema} {f : α → Datum} (o : Option α)
    (h : ∀ a, Fits depth item (f a) ∧ f a ≠ .absent) :
    Fits depth (.optional item) (.ofOption f o) := by
  cases o with
  | none => exact .absent
  | some a => exact .present (h a).1 (h a).2

lemma fits_ofOptionText (s : Option String) : Fits depth (.optional .text) (.ofOptionText s) :=
  fits_ofOption s fun t => ⟨.text t, by simp⟩

end Schema

variable (depth : Nat)

open Schema

/-! ### Link events and statistics -/

lemma LinkEvent.faithful (e : LinkEvent) : codec.Faithful (depth + 1) e where
  fits := by
    refine .record (by decide) rfl ?_
    have htag : e.transition.tag ∈ [Transition.tag .up, Transition.tag .down] := by
      cases e.transition <;> simp
    simp only [List.zip_cons_cons, List.zip_nil_right, List.forall_mem_cons]
    exact ⟨.text _, .text _, .text _, fits_uint32 _, .text _, .choice htag, fits_int32 _,
      fits_int32 _, .text _, .text _, List.forall_mem_nil _⟩
  told := by simp [codec, ofDatum?, toDatum, Datum.text?, Transition.codec]

lemma InterfaceCounts.faithful (c : InterfaceCounts) : codec.Faithful (depth + 1) c where
  fits := by
    refine .record (by decide) rfl ?_
    simp only [List.zip_cons_cons, List.zip_nil_right, List.forall_mem_cons]
    exact ⟨fits_uint64 _, fits_uint64 _, List.forall_mem_nil _⟩
  told := by simp [codec]

namespace Statistics

def entriesToDatum (t : Table InterfaceCounts) : List (String × Datum) :=
  t.map fun (k, c) => (k, InterfaceCounts.codec.toDatum c)

lemma mapM_entriesToDatum (t : Table InterfaceCounts) :
    (entriesToDatum t).mapM entryOfDatum? = some t := by
  unfold entriesToDatum
  induction t with
  | nil => rfl
  | cons e t ih =>
    obtain ⟨k, c⟩ := e
    have he : entryOfDatum? (k, InterfaceCounts.codec.toDatum c) = some (k, c) := by
      rw [entryOfDatum?, (InterfaceCounts.faithful 0 c).told]
      rfl
    rw [List.map_cons, List.mapM_cons, he, ih]
    rfl

lemma fits_entriesToDatum {t : Table InterfaceCounts} (h : Table.Sorted t) :
    Fits (depth + 2) (.table InterfaceCounts.codec.schema) (.table (entriesToDatum t)) := by
  have hsorted : Table.Sorted (entriesToDatum t) := by
    rw [Table.Sorted, Table.keys, entriesToDatum, List.map_map]
    exact h
  refine .table hsorted (List.forall_mem_map.2 fun e _ => ?_)
  exact (InterfaceCounts.faithful depth e.2).fits

/-- Statistics have their interfaces in order, with one entry for each. -/
lemma faithful {s : Statistics} (h : Table.Sorted s.perInterface) :
    codec.Faithful (depth + 3) s where
  fits := by
    refine .record (by decide) rfl ?_
    simp only [List.zip_cons_cons, List.zip_nil_right, List.forall_mem_cons]
    refine ⟨fits_uint64 _, fits_uint64 _, fits_uint64 _, fits_entriesToDatum _ h,
      fits_ofOption _ fun e => ⟨(LinkEvent.faithful _ e).fits, ?_⟩, List.forall_mem_nil _⟩
    simp [LinkEvent.toDatum]
  told := by
    have hentries := mapM_entriesToDatum s.perInterface
    have hlast := Datum.optional?_ofOption (fun e => (LinkEvent.faithful 0 e).told) s.last
    simp only [entriesToDatum] at hentries
    simp only [LinkEvent.codec] at hlast
    simp [codec, hentries, hlast]

end Statistics

/-! ### Counters and devices -/

lemma Counters.faithful (c : Counters) : codec.Faithful (depth + 1) c where
  fits := by
    refine .record (by decide) rfl ?_
    simp only [List.zip_cons_cons, List.zip_nil_right, List.forall_mem_cons]
    exact ⟨fits_uint64 _, fits_uint64 _, fits_uint64 _, fits_uint64 _, fits_uint64 _,
      fits_uint64 _, fits_uint64 _, fits_uint64 _, List.forall_mem_nil _⟩
  told := by simp [codec]

lemma DeviceMeta.faithful (m : DeviceMeta) : codec.Faithful (depth + 1) m where
  fits := by
    refine .record (by decide) rfl ?_
    simp only [List.zip_cons_cons, List.zip_nil_right, List.forall_mem_cons]
    exact ⟨fits_ofOptionText _, fits_ofOptionText _, fits_ofOptionText _, List.forall_mem_nil _⟩
  told := by simp [codec]

/-! ### Settings -/

lemma ChannelSettings.faithful (s : ChannelSettings) : codec.Faithful (depth + 1) s where
  fits := by
    refine .record (by decide) rfl ?_
    simp only [List.zip_cons_cons, List.zip_nil_right, List.forall_mem_cons]
    exact ⟨.text _, .text _, fits_uint64 _, .flag _, fits_uint64 _, List.forall_mem_nil _⟩
  told := by simp [codec, toDatum, Datum.text?, Datum.flag?]

lemma ControlSettings.faithful (s : ControlSettings) : codec.Faithful (depth + 1) s where
  fits := by
    refine .record (by decide) rfl ?_
    simp only [List.zip_cons_cons, List.zip_nil_right, List.forall_mem_cons]
    exact ⟨.text _, fits_uint64 _, List.forall_mem_nil _⟩
  told := by simp [codec, toDatum, Datum.text?]

lemma HistorySettings.faithful (s : HistorySettings) : codec.Faithful (depth + 1) s where
  fits := by
    refine .record (by decide) rfl ?_
    simp only [List.zip_cons_cons, List.zip_nil_right, List.forall_mem_cons]
    exact ⟨fits_uint64 _, fits_uint64 _, .flag _, fits_uint64 _, List.forall_mem_nil _⟩
  told := by simp [codec, toDatum, Datum.flag?]

lemma AuthSettings.faithful (s : AuthSettings) : codec.Faithful (depth + 1) s where
  fits := by
    refine .record (by decide) rfl ?_
    simp only [List.zip_cons_cons, List.zip_nil_right, List.forall_mem_cons]
    exact ⟨fits_ofOptionText _, List.forall_mem_nil _⟩
  told := by simp [codec, toDatum]

lemma LoggingSettings.faithful (s : LoggingSettings) : codec.Faithful (depth + 1) s where
  fits := by
    refine .record (by decide) rfl ?_
    have hformat : s.format.name ∈ [LogFormat.name .pretty, LogFormat.name .json] := by
      cases s.format <;> simp
    simp only [List.zip_cons_cons, List.zip_nil_right, List.forall_mem_cons]
    exact ⟨.text _, .choice hformat, List.forall_mem_nil _⟩
  told := by simp [codec, toDatum, Datum.text?, LogFormat.codec]

lemma Settings.faithful (s : Settings) : codec.Faithful (depth + 2) s where
  fits := by
    refine .record (by decide) rfl ?_
    simp only [List.zip_cons_cons, List.zip_nil_right, List.forall_mem_cons]
    exact ⟨(ChannelSettings.faithful _ s.channel).fits, (ControlSettings.faithful _ s.control).fits,
      (HistorySettings.faithful _ s.history).fits, (AuthSettings.faithful _ s.auth).fits,
      (LoggingSettings.faithful _ s.logging).fits, List.forall_mem_nil _⟩
  told := by
    have hchannel : ChannelSettings.codec.ofDatum? s.channel.toDatum = some s.channel :=
      (ChannelSettings.faithful 0 s.channel).told
    have hcontrol : ControlSettings.codec.ofDatum? s.control.toDatum = some s.control :=
      (ControlSettings.faithful 0 s.control).told
    have hhistory : HistorySettings.codec.ofDatum? s.history.toDatum = some s.history :=
      (HistorySettings.faithful 0 s.history).told
    have hauth : AuthSettings.codec.ofDatum? s.auth.toDatum = some s.auth :=
      (AuthSettings.faithful 0 s.auth).told
    have hlogging : LoggingSettings.codec.ofDatum? s.logging.toDatum = some s.logging :=
      (LoggingSettings.faithful 0 s.logging).told
    simp [codec, toDatum, hchannel, hcontrol, hhistory, hauth, hlogging]

/-- Statistics, counters, what messages say about devices and settings are read from their text as
they were, whatever order the fields of its objects are written in. -/
theorem records_readBack :
    (∀ s : Statistics, Table.Sorted s.perInterface → Statistics.codec.ReadsBack s) ∧
    (∀ c : Counters, Counters.codec.ReadsBack c) ∧
    (∀ m : DeviceMeta, DeviceMeta.codec.ReadsBack m) ∧
    ∀ s : Settings, Settings.codec.ReadsBack s :=
  ⟨fun _ h => (Statistics.faithful _ h).readsBack, fun c => (Counters.faithful _ c).readsBack,
    fun m => (DeviceMeta.faithful _ m).readsBack, fun s => (Settings.faithful _ s).readsBack⟩

/-- Counters as large as they get, and keys with a quote, a line end and an accent. -/
def busy : Statistics where
  total := 18446744073709551615
  up := 0
  down := 18446744073709551615
  perInterface := [("\"\n", ⟨0, 1⟩), ("é", .zero)]
  last := none

/-- The text with the outermost fields back to front. -/
def busyText : String :=
  "\x7b\"total_events\":18446744073709551615,\"per_interface\":" ++
  "\x7b\"\\\"\\n\":\x7b\"down\":1,\"up\":0\x7d,\"é\":\x7b\"down\":0,\"up\":0\x7d\x7d," ++
  "\"link_up_count\":0,\"link_down_count\":18446744073709551615,\"last_event\":null\x7d"

theorem records_readBack_busy : Table.Sorted busy.perInterface ∧
    (Statistics.codec.toJson busy).Rearranges (Statistics.codec.toJson busy).backwards ∧
    (Statistics.codec.toJson busy).backwards.render = busyText ∧
    Statistics.codec.parse busyText = .ok busy := by
  have hsorted : Table.Sorted busy.perInterface := by
    unfold Table.Sorted
    decide +kernel
  have horder := Json.rearranges_backwards (Statistics.codec.toJson busy)
  have htext : (Statistics.codec.toJson busy).backwards.render = busyText := by decide +kernel
  have hread := records_readBack.1 busy hsorted _ horder
  rw [htext] at hread
  exact ⟨hsorted, horder, htext, hread⟩

end LiveTelemetry
