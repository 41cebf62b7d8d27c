import LiveTelemetry.Proofs.Channel.Routing
import LiveTelemetry.Proofs.Message.Acceptance
import LiveTelemetry.Proofs.Reading.Description

/-!
What messages say about their devices. Main statement: after any run, each aspect of a device is the
last one that a message of that device brought since the store was cleared, whether or not the
samples of these messages were stored.
-/
namespace LiveTelemetry

/-- What a message says about an aspect of a device. -/
def MetricMessage.said? (a : Aspect) (id : String) (m : MetricMessage) : Option String :=
  if m.device.text = id then a.ofMeta m.info else none

/-- A message says what stands in the fields of its object; a field that is missing or null says
nothing. -/
lemma Message.field_of_parse {clock raw : String} {m : MetricMessage}
    (h : parse clock raw = .ok (.metric m)) :
    ∃ o, Json.parse raw = .ok (.object o) ∧
      ∀ a : Aspect, (Table.lookup a.field o).getD .null = .ofOption .text (a.ofMeta m.info) := by
  obtain ⟨o, ho, hread⟩ := readsMetric_of_parse h
  refine ⟨o, ho, fun a => ?_⟩
  cases a with
  | displayName => exact hread.displayName
  | deviceType => exact hread.deviceType
  | vendor => exact hread.vendor

namespace Store

variable {s : Store} {m : MetricMessage} {a : Aspect} {id : String}

/-- What a message says counts at once, and what it does not say stays. -/
lemma aspect_take : (s.take m).aspect a id = (m.said? a id).or (s.aspect a id) := by
  rw [take, aspect_ingest, aspect_annotate, MetricMessage.said?]
  split_ifs <;> rfl

lemma aspect_foldl_take (n : Nat) (ms : List MetricMessage) (a : Aspect) (id : String) :
    (ms.foldl take (new n)).aspect a id = (ms.filterMap (·.said? a id)).getLast? := by
  induction ms using List.reverseRecOn with
  | nil => rfl
  | append_singleton ms m ih =>
    have hlast : (ms ++ [m]).filterMap (·.said? a id) =
        ms.filterMap (·.said? a id) ++ (m.said? a id).toList := by
      rw [List.filterMap_append]
      cases hm : m.said? a id <;> simp [hm]
    rw [List.foldl_append, List.foldl_cons, List.foldl_nil, aspect_take, ih, hlast,
      getLast?_append_toList]

/-- The sample of a message repeats a reading in the same store before and after what the message
says about its device. -/
lemma get_take_of_repeated (h : (s.ingest m.device m.sample).2 = false) (id metric : String) :
    (s.take m).get id metric = s.get id metric := by
  have hrep : ((s.annotate m.device m.info).ingest m.device m.sample).2 = false := by
    rw [ingest_snd, get_annotate, ← ingest_snd, h]
  rw [take, get_ingest, hrep, get_annotate, if_neg fun hc => Bool.false_ne_true hc.2]

/-- What a message makes of what a store knows. -/
structure TakesOver (s : Store) (m : MetricMessage) : Prop where
  aspects : ∀ a id, (s.take m).aspect a id = (m.said? a id).or (s.aspect a id)
  others : ∀ id, id ≠ m.device.text → (s.take m).device id = s.device id
  /-- A sample that is not stored does not keep the rest of its message from counting. -/
  repeated : (s.ingest m.device m.sample).2 = false →
    ∀ id metric, (s.take m).get id metric = s.get id metric

lemma takesOver (s : Store) (m : MetricMessage) : s.TakesOver m where
  aspects _ _ := aspect_take
  others id h := by rw [take, device_ingest_of_ne h, device_annotate_of_ne h]
  repeated h := get_take_of_repeated h

end Store

namespace System

/-- Only a current reader brings messages, and only frames that hold one bring something. -/
structure Brings (s : System) (r : Nat) (f : Frame) : Prop where
  taken : ∀ g raw m, s.readers[r]? = some g → s.channel.isCurrent g = true → f.Holds raw →
    Message.parse s.clock.text raw = .ok (.metric m) →
    (s.step (.frame r f)).channel.store = s.channel.store.take m
  refused : (∀ raw m, f.Holds raw → Message.parse s.clock.text raw ≠ .ok m) →
    (s.step (.frame r f)).channel.holdings = s.channel.holdings ∧
      (s.step (.frame r f)).channel.control = s.channel.control

lemma brings (s : System) (r : Nat) (f : Frame) : s.Brings r f where
  taken g raw m hr hg hraw hm := by
    have hchange : s.change? (.frame r f) = some (.metric m) := by
      simp [change?, hr, hg, Frame.text?_eq_some_iff.2 hraw, Change.ofText?, hm]
    have hstep := s.holdings_step (.frame r f)
    rw [hchange] at hstep
    exact congrArg Holdings.store hstep
  refused h := by
    refine ⟨?_, (s.separates_frame r f).control⟩
    rcases s.holdings_frame r f with hsame | ⟨raw, m, hraw, hm, -⟩ | ⟨raw, e, hraw, he, -⟩
    · exact hsame
    · exact absurd hm (h raw _ hraw)
    · exact absurd he (h raw _ hraw)

/-- Of each aspect of a device the last one counts that was told since the store was cleared, be it
told to the store or in messages of that device. Nothing else changes it: not a message that says
nothing of it, no sample, no other device and no text that is no message. -/
theorem description_run (settings : ChannelSettings) (n : Nat) (credentials : CredentialSlot)
    (clock : Channel.Clock) :
    (∀ ops a id, ((Store.new n).performAll ops).aspect a id = (Store.told a id ops).getLast?) ∧
    (∀ inputs,
      let s := new (.new settings n credentials) clock
      let t := s.run inputs
      (∀ a id, t.channel.store.aspect a id =
        ((Change.metrics (s.changes inputs)).filterMap (·.said? a id)).getLast?) ∧
      ∀ r f, t.Brings r f) ∧
    (∀ time raw m, Message.parse time raw = .ok (.metric m) → ∃ o,
      Json.parse raw = .ok (.object o) ∧
      ∀ a : Aspect, (Table.lookup a.field o).getD .null = .ofOption .text (a.ofMeta m.info)) ∧
    ∀ s : Store, s.KeepsApart ∧ ∀ m, s.TakesOver m := by
  refine ⟨Store.aspect_performAll n, fun inputs => ?_, fun time raw m => Message.field_of_parse,
    fun s => ⟨s.keepsApart, s.takesOver⟩⟩
  intro s t
  refine ⟨fun a id => ?_, t.brings⟩
  have hstore : t.channel.store = (Change.metrics (s.changes inputs)).foldl Store.take (.new n) :=
    (congrArg Holdings.store (s.holdings_run inputs)).trans (Holdings.store_foldl_take rfl _)
  rw [hstore, Store.aspect_foldl_take]

/-- A repeated sample still brings the vendor, and what it leaves out stays known. -/
example :
    let x : Sample := ⟨"load", .text "low", "t"⟩
    let s := [⟨⟨"r1"⟩, x, ⟨some "core", none, none⟩⟩, ⟨⟨"r1"⟩, x, ⟨none, none, some "v"⟩⟩].foldl
      Store.take (.new 2)
    (s.aspect .displayName "r1", s.aspect .vendor "r1", (s.get "r1" "load").length) =
      (some "core", some "v", 1) := by
  decide +kernel

end System
end LiveTelemetry
