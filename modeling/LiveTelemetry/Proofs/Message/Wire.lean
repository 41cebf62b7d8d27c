import LiveTelemetry.Proofs.Json.Print
import LiveTelemetry.Proofs.Message.Acceptance

/-!
Link events on the wire. Main statement: the object of an event, printed with its fields in any
order, is read back as this event, and so is any text of an object that holds these fields among
others; the router may go under its own name or under that of a device.
-/
namespace LiveTelemetry

namespace LinkEvent

/-- What an object names the router of an event by. -/
inductive Naming where
  | router
  | device
  /-- By the device, with a router that is null. -/
  | nullRouter
  deriving DecidableEq

namespace Naming

def fields (id : DeviceId) : Naming → List (String × Json)
  | router => [("router_id", .text id.text)]
  | device => [("device_id", .text id.text)]
  | nullRouter => [("router_id", .null), ("device_id", .text id.text)]

end Naming

/-- The fields of an event but for its router, in the order of declaration. -/
def commonFields (e : LinkEvent) : List (String × Json) :=
  [("router_name", .text e.routerName), ("router_ip", .text e.routerAddress),
    ("interface_index", .number (.integer e.interfaceIndex.toNat)),
    ("interface_name", .text e.interfaceName), ("event", .text e.transition.tag),
    ("admin_status", .number (.integer e.adminStatus.toInt)),
    ("oper_status", .number (.integer e.operStatus.toInt)), ("timestamp", .text e.timestamp),
    ("trap_oid", .text e.trapOid)]

def wireFields (e : LinkEvent) (n : Naming) : List (String × Json) :=
  n.fields e.router ++ e.commonFields

/-- An object holds the fields of an event, whatever else it holds. -/
structure Holds (e : LinkEvent) (n : Naming) (o : Table Json) : Prop where
  field : ∀ f ∈ e.wireFields n, Table.lookup f.1 o = some f.2
  moved : n = .device → Table.lookup "router_id" o = none

variable {e : LinkEvent} {n : Naming} {o : Table Json}

lemma nodup_wireFields (e : LinkEvent) (n : Naming) : ((e.wireFields n).map Prod.fst).Nodup := by
  cases n <;> simp [wireFields, Naming.fields, commonFields]

/-- An event prints as the object of its fields. -/
lemma exists_toJson_eq (e : LinkEvent) :
    ∃ fs : List (String × Json), fs.Perm (e.wireFields .router) ∧ codec.toJson e = .object fs :=
  ⟨_, Table.perm_ofList (nodup_wireFields e .router), rfl⟩

/-- The fields of an event make up an object that holds them, in whatever order they come. -/
lemma holds_ofList {fs : List (String × Json)} (h : fs.Perm (e.wireFields n)) :
    e.Holds n (Table.ofList fs) := by
  have hkeys : (fs.map Prod.fst).Perm ((e.wireFields n).map Prod.fst) := h.map Prod.fst
  constructor
  · intro f hf
    exact Table.lookup_ofList_of_mem (hkeys.nodup_iff.2 (nodup_wireFields e n)) (h.mem_iff.2 hf)
  · rintro rfl
    apply Table.lookup_ofList_of_notMem
    rw [hkeys.mem_iff]
    simp [wireFields, Naming.fields, commonFields]

/-- Every field of an event denotes itself in print. -/
lemma denotes_of_mem_wireFields {depth : Nat} {f : String × Json} (hf : f ∈ e.wireFields n) :
    Json.Denotes depth f.2.chars f.2 := by
  have hword (x : UInt32) : Json.Denotes depth (Json.number (.integer x.toNat)).chars
      (.number (.integer x.toNat)) := by
    have hx := x.toNat_lt
    have hsize : UInt64.size = 18446744073709551616 := rfl
    exact Json.denotes_integer (by omega) (by omega)
  have hstatus (x : Int32) : Json.Denotes depth (Json.number (.integer x.toInt)).chars
      (.number (.integer x.toInt)) := by
    have hlow := x.le_toInt
    have hhigh := x.toInt_lt
    have hsize : UInt64.size = 18446744073709551616 := rfl
    exact Json.denotes_integer (by omega) (by omega)
  have hnull : Json.Denotes depth Json.null.chars .null := by
    rw [Json.chars]
    exact .null
  have hrouter : ∀ f ∈ n.fields e.router, Json.Denotes depth f.2.chars f.2 := by
    cases n <;> simp [Naming.fields, Json.denotes_text, hnull]
  have hcommon : ∀ f ∈ e.commonFields, Json.Denotes depth f.2.chars f.2 := by
    simp [commonFields, Json.denotes_text, hword, hstatus]
  rcases List.mem_append.1 hf with hf | hf
  · exact hrouter f hf
  · exact hcommon f hf

end LinkEvent

namespace Message

open LinkEvent

variable {clock raw : String} {e : LinkEvent} {n : Naming} {o : Table Json}

lemma routerIn_of_holds (h : e.Holds n o) : routerIn o = some (.text e.router.text) := by
  have hfield := h.field
  unfold routerIn
  cases n with
  | router =>
    rw [hfield ("router_id", .text e.router.text) (by simp [wireFields, Naming.fields])]
  | device =>
    rw [h.moved rfl]
    exact hfield ("device_id", .text e.router.text) (by simp [wireFields, Naming.fields])
  | nullRouter =>
    rw [hfield ("router_id", .null) (by simp [wireFields, Naming.fields])]
    exact hfield ("device_id", .text e.router.text) (by simp [wireFields, Naming.fields])

/-- An object that holds the fields of an event tells of it. -/
lemma readsLink_of_holds (hid : e.router.isBlank = false) (h : e.Holds n o) : ReadsLink o e := by
  have hfield : ∀ f ∈ e.commonFields, Table.lookup f.1 o = some f.2 := fun f hf =>
    h.field f (List.mem_append_right _ hf)
  simp only [commonFields, List.forall_mem_cons, List.not_mem_nil, false_implies, implies_true,
    and_true] at hfield
  obtain ⟨hname, haddress, hindex, hinterface, hevent, hadmin, hoper, htime, hoid⟩ := hfield
  exact {
    transition := hevent
    router := routerIn_of_holds h
    named := hid
    interfaceIndex := hindex
    routerName := by rw [hname, Option.getD_some]
    routerAddress := by rw [haddress, Option.getD_some]
    interfaceName := by rw [hinterface, Option.getD_some]
    adminStatus := by rw [hadmin, Option.getD_some]
    operStatus := by rw [hoper, Option.getD_some]
    timestamp := by rw [htime, Option.getD_some]
    trapOid := by rw [hoid, Option.getD_some] }

/-- A text that is read as an object has a brace, and so is not blank. -/
lemma isBlank_of_parse_object (h : Json.parse raw = .ok (.object o)) :
    Text.isBlank raw = false := by
  obtain ⟨a, w, b, -, hw, -, hraw⟩ := Json.parse_eq_ok_iff.1 h
  have hbrace : '\x7b' ∈ w := by
    generalize hv : Json.object o = v at hw
    cases hw with
    | object hf => exact List.mem_cons_self
    | _ => cases hv
  refine Text.isBlank_eq_false_of_mem (c := '\x7b') ?_ (by decide)
  rw [hraw]
  exact List.mem_append_right _ (List.mem_append_left _ hbrace)

/-- A text of an object that holds the fields of an event is read as this event. -/
lemma parse_of_holds (hid : e.router.isBlank = false) (hsize : raw.utf8ByteSize ≤ 65536)
    (hraw : Json.parse raw = .ok (.object o)) (h : e.Holds n o) : parse clock raw = .ok (link e) := by
  have hcheck : checkText raw = .ok () :=
    checkText_eq_ok_iff.2 ⟨hsize, isBlank_of_parse_object hraw⟩
  have hsorted : Table.Sorted o := (Json.parse_eq_ok_iff.1 hraw).sorted
  have hreads : Reads clock o (link e) := readsLink_of_holds hid h
  unfold parse
  rw [hcheck]
  dsimp only
  rw [hraw]
  dsimp only
  exact (ofObject_eq_ok_iff hsorted).2 hreads

/-- The fields of an event are read back in whatever order they are printed. -/
lemma parse_render_of_perm (hid : e.router.isBlank = false) {fs : List (String × Json)}
    (hperm : fs.Perm (e.wireFields n)) (hsize : (Json.object fs).render.utf8ByteSize ≤ 65536) :
    parse clock (Json.object fs).render = .ok (link e) := by
  have hdenotes : ∀ f ∈ fs, Json.Denotes 126 f.2.chars f.2 := fun f hf =>
    denotes_of_mem_wireFields (hperm.mem_iff.1 hf)
  have hraw : Json.parse (Json.object fs).render = .ok (.object (Table.ofList fs)) :=
    Json.parse_render_of_denotes (Json.denotes_object hdenotes)
  exact parse_of_holds hid hsize hraw (holds_ofList hperm)

/-- A link event with a router that is not blank survives the wire: it is read back from its own
text, from its fields printed in any order, and from every text of an object that holds them among
others, whatever name the router goes by. -/
theorem parse_wire (clock : String) (e : LinkEvent) (hid : e.router.isBlank = false) :
    ((LinkEvent.codec.toJson e).render.utf8ByteSize ≤ 65536 →
      parse clock (LinkEvent.codec.toJson e).render = .ok (link e)) ∧
    ∀ n : Naming,
      (∀ fs : List (String × Json), fs.Perm (e.wireFields n) →
        (Json.object fs).render.utf8ByteSize ≤ 65536 →
        parse clock (Json.object fs).render = .ok (link e)) ∧
      (∀ (raw : String) (o : Table Json), raw.utf8ByteSize ≤ 65536 →
        Json.parse raw = .ok (.object o) → e.Holds n o → parse clock raw = .ok (link e)) := by
  constructor
  · intro hsize
    obtain ⟨fs, hperm, hfs⟩ := exists_toJson_eq e
    rw [hfs] at hsize ⊢
    exact parse_render_of_perm hid hperm hsize
  · intro n
    constructor
    · intro fs hperm hsize
      exact parse_render_of_perm hid hperm hsize
    · intro raw o hsize hraw hholds
      exact parse_of_holds hid hsize hraw hholds

/-- An event with a name that has to be escaped, in reverse order, and beside a metric. -/
theorem parse_wire_escaped :
    let e : LinkEvent :=
      ⟨⟨"r\"\n1"⟩, "core", "10.0.0.1", 4294967295, "eth0", .down, -2147483648, 2, "", "1.3.6"⟩
    let more : List (String × Json) := [("metric", .text "cpu"), ("value", .number (.integer 5))]
    parse "now" (Json.object (e.wireFields .nullRouter).reverse).render = .ok (link e) ∧
      parse "now" (Json.object (more ++ e.wireFields .device)).render = .ok (link e) := by
  intro e more
  have hid : e.router.isBlank = false := by decide +kernel
  have hmore : ∀ f ∈ more, Json.Denotes 126 f.2.chars f.2 := by
    simp [more, Json.denotes_text, Json.denotes_integer, UInt64.size]
  have hraw : Json.parse (Json.object (more ++ e.wireFields .device)).render =
      .ok (.object (Table.ofList (more ++ e.wireFields .device))) := by
    refine Json.parse_render_of_denotes (Json.denotes_object fun f hf => ?_)
    exact (List.mem_append.1 hf).elim (hmore f) denotes_of_mem_wireFields
  have hholds : e.Holds .device (Table.ofList (more ++ e.wireFields .device)) := by
    constructor
    · intro f hf
      exact Table.lookup_ofList_of_mem (by decide) (List.mem_append_right _ hf)
    · intro _
      exact Table.lookup_ofList_of_notMem (by decide)
  obtain ⟨-, hwire⟩ := parse_wire "now" e hid
  constructor
  · exact (hwire .nullRouter).1 _ (List.reverse_perm _) (by decide +kernel)
  · exact (hwire .device).2 _ _ (by decide +kernel) hraw hholds

end Message
end LiveTelemetry
