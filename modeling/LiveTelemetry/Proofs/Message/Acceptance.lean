import LiveTelemetry.Message
import LiveTelemetry.Proofs.Json.Parse
import LiveTelemetry.Proofs.Schema.Field

/-!
Which texts are messages. Main statement: exactly which texts are read as a message, and as which
one.
-/
namespace LiveTelemetry

namespace Codec

lemma ofJson_eq_ok_iff {α : Type} {c : Codec α} {j : Json} {a : α} :
    c.ofJson j = .ok a ↔ ∃ d, c.schema.ofJson j = .ok d ∧ c.ofDatum? d = some a := by
  unfold ofJson
  cases c.schema.ofJson j with
  | error m => simp
  | ok d => cases h : c.ofDatum? d <;> simp [h]

end Codec

namespace LinkEvent

open Schema

variable {o : Table Json} {e : LinkEvent}

lemma ofJson_eq_ok_iff (hs : Table.Sorted o) {t : Transition}
    (ht : Table.lookup "event" o = some (.text t.tag)) :
    codec.ofJson (.object o) = .ok e ↔
      Table.lookup "router_id" o = some (.text e.router.text) ∧
      (Table.lookup "router_name" o).getD (.text "") = .text e.routerName ∧
      (Table.lookup "router_ip" o).getD (.text "") = .text e.routerAddress ∧
      Table.lookup "interface_index" o = some (.number (.integer e.interfaceIndex.toNat)) ∧
      (Table.lookup "interface_name" o).getD (.text "") = .text e.interfaceName ∧
      e.transition = t ∧
      (Table.lookup "admin_status" o).getD (.number (.integer 0)) =
        .number (.integer e.adminStatus.toInt) ∧
      (Table.lookup "oper_status" o).getD (.number (.integer 0)) =
        .number (.integer e.operStatus.toInt) ∧
      (Table.lookup "timestamp" o).getD (.text "") = .text e.timestamp ∧
      (Table.lookup "trap_oid" o).getD (.text "") = .text e.trapOid := by
  have htag : t.tag ∈ [Transition.tag .up, Transition.tag .down] := by cases t <;> simp
  have hchoice : ∀ d, FieldReads Schema.ofJson o (required "event" Transition.codec.schema) d ↔
      d = .choice t.tag := fun _ => fieldReads_choice ht htag
  rw [Codec.ofJson_eq_ok_iff]
  refine (exists_ofJson_record hs (by decide)).trans ?_
  simp only [exists_fieldsRead_cons, exists_fieldsRead_nil, hchoice, exists_eq_left,
    exists_and_of_iff fun _ => fieldReads_text,
    exists_and_of_iff fun _ => fieldReads_withDefault_text,
    exists_and_of_iff fun _ => fieldReads_uint32,
    exists_and_of_iff fun _ => fieldReads_withDefault_int32]
  simp only [codec, ofDatum?, Datum.text?, Datum.uint32?_ofUInt32, Datum.int32?_ofInt32, Transition.codec,
    Transition.ofTag?_tag, Option.bind_eq_bind, Option.bind_some, Option.pure_def, Option.some.injEq]
  constructor
  · rintro ⟨_, h₁, _, h₂, _, h₃, _, h₄, _, h₅, _, h₆, _, h₇, _, h₈, _, h₉, rfl⟩
    exact ⟨h₁, h₂, h₃, h₄, h₅, rfl, h₆, h₇, h₈, h₉⟩
  · rintro ⟨h₁, h₂, h₃, h₄, h₅, rfl, h₆, h₇, h₈, h₉⟩
    exact ⟨_, h₁, _, h₂, _, h₃, _, h₄, _, h₅, _, h₆, _, h₇, _, h₈, _, h₉, rfl⟩

end LinkEvent

namespace Message

variable {o : Table Json}

/-- What a link event names its router by: `router_id`, or `device_id` if that is missing or null. -/
def routerIn (o : Table Json) : Option Json :=
  match Table.lookup "router_id" o with
  | none | some .null => Table.lookup "device_id" o
  | some v => some v

/-- An object tells of a link event. Texts and numbers that it lacks are empty and zero. -/
structure ReadsLink (o : Table Json) (e : LinkEvent) : Prop where
  transition : Table.lookup "event" o = some (.text e.transition.tag)
  router : routerIn o = some (.text e.router.text)
  named : e.router.isBlank = false
  interfaceIndex :
    Table.lookup "interface_index" o = some (.number (.integer e.interfaceIndex.toNat))
  routerName : (Table.lookup "router_name" o).getD (.text "") = .text e.routerName
  routerAddress : (Table.lookup "router_ip" o).getD (.text "") = .text e.routerAddress
  interfaceName : (Table.lookup "interface_name" o).getD (.text "") = .text e.interfaceName
  adminStatus : (Table.lookup "admin_status" o).getD (.number (.integer 0)) =
    .number (.integer e.adminStatus.toInt)
  operStatus : (Table.lookup "oper_status" o).getD (.number (.integer 0)) =
    .number (.integer e.operStatus.toInt)
  timestamp : (Table.lookup "timestamp" o).getD (.text "") = .text e.timestamp
  trapOid : (Table.lookup "trap_oid" o).getD (.text "") = .text e.trapOid

/-- An object tells of a sample, read at a time. Texts about its device may be missing or null. -/
structure ReadsMetric (clock : String) (o : Table Json) (m : MetricMessage) : Prop where
  noTransition : ∀ t : Transition, Table.lookup "event" o ≠ some (.text t.tag)
  metric : Table.lookup "metric" o = some (.text m.sample.metric)
  named : Text.isBlank m.sample.metric = false
  bounded : m.sample.metric.utf8ByteSize ≤ 256
  printable : ∀ c ∈ m.sample.metric.toList, Text.isControlChar c = false
  value : ∃ v, Table.lookup "value" o = some v ∧ Measurement.ofJson? v = some m.sample.value
  device : ∃ device router, (Table.lookup "device_id" o).getD .null = .ofOption .text device ∧
    (Table.lookup "router_id" o).getD .null = .ofOption .text router ∧
    (nonBlank device).or (nonBlank router) = some m.device.text
  timestamp : ∃ t, (Table.lookup "timestamp" o).getD .null = .ofOption .text t ∧
    m.sample.timestamp = (nonBlank t).getD clock
  displayName : (Table.lookup "device_name" o).getD .null = .ofOption .text m.info.displayName
  deviceType : (Table.lookup "device_type" o).getD .null = .ofOption .text m.info.deviceType
  vendor : (Table.lookup "vendor" o).getD .null = .ofOption .text m.info.vendor

lemma transition?_eq_some_iff {t : Transition} :
    transition? o = some t ↔ Table.lookup "event" o = some (.text t.tag) := by
  unfold transition?
  cases Table.lookup "event" o with
  | none => simp
  | some v => cases v <;> simp [Json.text?, Transition.ofTag?_eq_some]

lemma routerIn_eq (o : Table Json) : routerIn o =
    if isPresent "router_id" o then Table.lookup "router_id" o else Table.lookup "device_id" o := by
  unfold routerIn isPresent
  cases Table.lookup "router_id" o with
  | none => rfl
  | some v => cases v <;> rfl

/-- The router goes under its own name then, and everything but the device is kept. -/
lemma linkFields_eq_ok {o' : Table Json} (hs : Table.Sorted o) (h : linkFields o = .ok o') :
    Table.Sorted o' ∧ Table.lookup "router_id" o' = routerIn o ∧
      ∀ name, name ≠ "router_id" → name ≠ "device_id" →
        Table.lookup name o' = Table.lookup name o := by
  rw [routerIn_eq]
  unfold linkFields at h
  split_ifs at h ⊢
  · cases h
    exact ⟨hs, rfl, fun _ _ _ => rfl⟩
  · split at h
    · cases h
    · next id hid =>
      cases h
      refine ⟨(hs.remove _).put _ _, ?_, fun name hr hd => ?_⟩
      · rw [Table.lookup_put_self, hid]
      · rw [Table.lookup_put_of_ne hr, Table.lookup_remove_of_ne hd]

lemma linkFields_eq_error {r : Refusal} (h : linkFields o = .error r) : routerIn o = none := by
  rw [routerIn_eq]
  unfold linkFields at h
  split_ifs at h ⊢
  split at h
  · assumption
  · cases h

lemma parseLink_eq_ok_iff (hs : Table.Sorted o) {t : Transition} {e : LinkEvent}
    (ht : Table.lookup "event" o = some (.text t.tag)) :
    parseLink o = .ok e ↔ ReadsLink o e := by
  unfold parseLink
  cases hl : linkFields o with
  | error r =>
    refine iff_of_false (fun h => by cases h) fun h => ?_
    have hr := h.router
    rw [linkFields_eq_error hl] at hr
    cases hr
  | ok o' =>
    obtain ⟨hs', hrouter, hkept⟩ := linkFields_eq_ok hs hl
    have hread := @LinkEvent.ofJson_eq_ok_iff o' e hs' t
      ((hkept "event" (by decide) (by decide)).trans ht)
    simp only [hrouter, hkept "router_name" (by decide) (by decide),
      hkept "router_ip" (by decide) (by decide), hkept "interface_index" (by decide) (by decide),
      hkept "interface_name" (by decide) (by decide),
      hkept "admin_status" (by decide) (by decide), hkept "oper_status" (by decide) (by decide),
      hkept "timestamp" (by decide) (by decide), hkept "trap_oid" (by decide) (by decide)] at hread
    constructor
    · intro h
      dsimp only at h
      split at h
      · cases h
      · next hc =>
        split_ifs at h with hb
        cases h
        obtain ⟨h₁, h₂, h₃, h₄, h₅, rfl, h₆, h₇, h₈, h₉⟩ := hread.1 hc
        exact ⟨ht, h₁, Bool.eq_false_iff.2 hb, h₄, h₂, h₃, h₅, h₆, h₇, h₈, h₉⟩
    · intro h
      have hte : e.transition = t := by
        have htag : e.transition.tag = t.tag := by simpa using h.transition.symm.trans ht
        exact Option.some.inj (by rw [← Transition.ofTag?_tag, htag, Transition.ofTag?_tag])
      have hc := hread.2 ⟨h.router, h.routerName, h.routerAddress, h.interfaceIndex,
        h.interfaceName, hte, h.adminStatus, h.operStatus, h.timestamp, h.trapOid⟩
      dsimp only
      rw [hc]
      dsimp only
      rw [h.named, if_neg Bool.false_ne_true]

namespace Report

open Schema

lemma ofFields_eq_ok_iff (hs : Table.Sorted o) {r : Report} :
    ofFields o = .ok r ↔
      (Table.lookup "device_id" o).getD .null = .ofOption .text r.device ∧
      (Table.lookup "router_id" o).getD .null = .ofOption .text r.router ∧
      Table.lookup "metric" o = some (.text r.metric) ∧
      (∃ v, Table.lookup "value" o = some v ∧ Measurement.ofJson? v = some r.value) ∧
      (Table.lookup "timestamp" o).getD .null = .ofOption .text r.timestamp ∧
      (Table.lookup "device_name" o).getD .null = .ofOption .text r.info.displayName ∧
      (Table.lookup "device_type" o).getD .null = .ofOption .text r.info.deviceType ∧
      (Table.lookup "vendor" o).getD .null = .ofOption .text r.info.vendor := by
  have h : ofFields o = .ok r ↔ ∃ d, schema.ofJson (.object o) = .ok d ∧ ofDatum? d = some r := by
    unfold ofFields
    cases schema.ofJson (.object o) with
    | error m => simp
    | ok d => cases h : ofDatum? d <;> simp [h]
  rw [h]
  refine (exists_ofJson_record hs (by decide)).trans ?_
  simp only [exists_fieldsRead_cons, exists_fieldsRead_nil,
    exists_and_of_iff fun _ => fieldReads_text,
    exists_and_of_iff fun _ => fieldReads_optional_text,
    exists_and_of_iff fun _ => fieldReads_measurement]
  simp only [ofDatum?, Datum.text?, Datum.optional?_ofOptionText, Option.bind_eq_bind,
    Option.bind_some, Option.pure_def, Option.some.injEq]
  constructor
  · rintro ⟨_, h₁, _, h₂, _, h₃, _, h₄, _, h₅, _, h₆, _, h₇, _, h₈, rfl⟩
    exact ⟨h₁, h₂, h₃, h₄, h₅, h₆, h₇, h₈⟩
  · rintro ⟨h₁, h₂, h₃, h₄, h₅, h₆, h₇, h₈⟩
    exact ⟨_, h₁, _, h₂, _, h₃, _, h₄, _, h₅, _, h₆, _, h₇, _, h₈, rfl⟩

end Report

lemma checkMetricName_eq_ok_iff {name : String} :
    checkMetricName name = .ok () ↔ Text.isBlank name = false ∧ name.utf8ByteSize ≤ 256 ∧
      ∀ c ∈ name.toList, Text.isControlChar c = false := by
  unfold checkMetricName nameLimit
  split_ifs with hsize hcontrol
  · refine iff_of_false (fun h => by cases h) fun ⟨hb, hn, _⟩ => ?_
    rcases hsize with h | h
    · rw [hb] at h
      cases h
    · omega
  · refine iff_of_false (fun h => by cases h) fun ⟨_, _, hc⟩ => ?_
    obtain ⟨c, hmem, h⟩ := List.any_eq_true.1 hcontrol
    rw [hc c hmem] at h
    cases h
  · refine iff_of_true rfl ⟨?_, ?_, fun c hc => ?_⟩
    · exact Bool.eq_false_iff.2 fun h => hsize (.inl h)
    · exact Nat.le_of_not_lt fun h => hsize (.inr h)
    · exact Bool.eq_false_iff.2 fun h => hcontrol (List.any_eq_true.2 ⟨c, hc, h⟩)

lemma parseMetric_eq_ok_iff (hs : Table.Sorted o) {clock : String} {m : MetricMessage}
    (ht : ∀ t : Transition, Table.lookup "event" o ≠ some (.text t.tag)) :
    parseMetric clock o = .ok m ↔ ReadsMetric clock o m := by
  unfold parseMetric
  constructor
  · intro h
    split at h
    · cases h
    · next r hr =>
      obtain ⟨hdevice, hrouter, hmetric, hvalue, htime, hname, htype, hvendor⟩ :=
        (Report.ofFields_eq_ok_iff hs).1 hr
      split at h
      · cases h
      · next id hid =>
        split at h
        · cases h
        · next hcheck =>
          cases h
          obtain ⟨hb, hn, hc⟩ := checkMetricName_eq_ok_iff.1 hcheck
          exact ⟨ht, hmetric, hb, hn, hc, hvalue, ⟨_, _, hdevice, hrouter, hid⟩, ⟨_, htime, rfl⟩,
            hname, htype, hvendor⟩
  · rintro ⟨-, hmetric, hb, hn, hc, hvalue, ⟨device, router, hdevice, hrouter, hid⟩,
      ⟨time, htime, ht⟩, hname, htype, hvendor⟩
    have hr : Report.ofFields o = .ok ⟨device, router, m.sample.metric, m.sample.value, time,
        m.info⟩ :=
      (Report.ofFields_eq_ok_iff hs).2
        ⟨hdevice, hrouter, hmetric, hvalue, htime, hname, htype, hvendor⟩
    rw [hr]
    dsimp only
    rw [hid]
    dsimp only
    rw [checkMetricName_eq_ok_iff.2 ⟨hb, hn, hc⟩, ← ht]

lemma checkText_eq_ok_iff {raw : String} :
    checkText raw = .ok () ↔ raw.utf8ByteSize ≤ 65536 ∧ Text.isBlank raw = false := by
  unfold checkText sizeLimit
  split_ifs with hsize hb
  · exact iff_of_false (fun h => by cases h) fun h => absurd h.1 (by omega)
  · exact iff_of_false (fun h => by cases h) fun h => by simp [h.2] at hb
  · exact iff_of_true rfl ⟨Nat.le_of_not_lt hsize, Bool.eq_false_iff.2 hb⟩

/-- An object tells of what a message says. -/
def Reads (clock : String) (o : Table Json) : Message → Prop
  | link e => ReadsLink o e
  | metric m => ReadsMetric clock o m

lemma ofObject_eq_ok_iff (hs : Table.Sorted o) {clock : String} {m : Message} :
    (if (transition? o).isSome then (parseLink o).map link else (parseMetric clock o).map metric) =
      .ok m ↔ Reads clock o m := by
  cases ht : transition? o with
  | some t =>
    rw [transition?_eq_some_iff] at ht
    rw [Option.isSome_some, if_pos rfl]
    cases m with
    | link e =>
      rw [Reads, ← parseLink_eq_ok_iff hs ht]
      cases parseLink o <;> simp [Except.map]
    | metric m =>
      refine iff_of_false (fun h => ?_) fun h => h.noTransition t ht
      cases hl : parseLink o <;> simp [hl, Except.map] at h
  | none =>
    have ht : ∀ t : Transition, Table.lookup "event" o ≠ some (.text t.tag) := fun t h => by
      rw [transition?_eq_some_iff.2 h] at ht
      cases ht
    rw [Option.isSome_none, if_neg Bool.false_ne_true]
    cases m with
    | link e =>
      refine iff_of_false (fun h => ?_) fun h => ht _ h.transition
      cases hm : parseMetric clock o <;> simp [hm, Except.map] at h
    | metric m =>
      rw [Reads, ← parseMetric_eq_ok_iff hs ht]
      cases parseMetric clock o <;> simp [Except.map]

/-- The object behind a metric message. -/
lemma readsMetric_of_parse {clock raw : String} {m : MetricMessage}
    (h : parse clock raw = .ok (.metric m)) :
    ∃ o, Json.parse raw = .ok (.object o) ∧ ReadsMetric clock o m := by
  unfold parse at h
  split at h
  · cases h
  · split at h
    · cases h
    · next o ho =>
      have hs : Table.Sorted o := (Json.parse_eq_ok_iff.1 ho).sorted
      exact ⟨o, ho, (ofObject_eq_ok_iff hs).1 h⟩
    · cases h

/-- A text is read as a message exactly if it is neither too long nor blank and denotes an object
that tells of what the message says. -/
theorem parse_eq_ok_iff_reads (clock raw : String) (m : Message) :
    parse clock raw = .ok m ↔
      raw.utf8ByteSize ≤ 65536 ∧ Text.isBlank raw = false ∧
      ∃ o, Json.Document 127 raw.toList (.object o) ∧ Reads clock o m := by
  rw [← and_assoc, ← checkText_eq_ok_iff]
  simp only [← Json.parse_eq_ok_iff]
  unfold parse
  cases checkText raw with
  | error r => simp
  | ok u =>
    cases hp : Json.parse raw with
    | error f => simp
    | ok v =>
      cases v with
      | object o =>
        have hs : Table.Sorted o := (Json.parse_eq_ok_iff.1 hp).sorted
        simpa using ofObject_eq_ok_iff hs
      | _ => simp

/-- A router that is null counts as missing. -/
example : (parse "now" ("\x7b\"event\":\"link_up\",\"router_id\":null,\"device_id\":\"r1\"," ++
    "\"interface_index\":7\x7d")).toOption.map device = some ⟨"r1"⟩ := by decide +kernel

end Message
end LiveTelemetry
