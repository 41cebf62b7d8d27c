import LiveTelemetry.DeviceId

/-!
Link events: an interface of a device came up or went down. The keys under which events are
counted and throttled join the device, the index of the interface and the transition with colons.
-/
namespace LiveTelemetry

inductive Transition where
  | up
  | down
  deriving DecidableEq

namespace Transition

def tag : Transition → String
  | up => "link_up"
  | down => "link_down"

def ofTag? (tag : String) : Option Transition :=
  if tag = "link_up" then some up else if tag = "link_down" then some down else none

def codec : Codec Transition where
  schema := .choice "LinkEvent" [tag up, tag down]
  toDatum t := .choice t.tag
  ofDatum?
    | .choice tag => ofTag? tag
    | _ => none

@[simp] theorem ofTag?_tag (t : Transition) : ofTag? t.tag = some t := by
  cases t <;> decide

theorem ofTag?_eq_some {s : String} {t : Transition} : ofTag? s = some t ↔ s = t.tag := by
  constructor
  · intro h
    unfold ofTag? at h
    split at h
    · cases h
      assumption
    · split at h
      · cases h
        assumption
      · cases h
  · rintro rfl
    simp

end Transition

structure LinkEvent where
  router : DeviceId
  routerName : String
  routerAddress : String
  interfaceIndex : UInt32
  interfaceName : String
  transition : Transition
  adminStatus : Int32
  operStatus : Int32
  timestamp : String
  trapOid : String
  deriving DecidableEq

namespace LinkEvent

def schema : Schema :=
  .record "TrapEvent"
    [Schema.required "router_id" .text,
      Schema.withDefault "router_name" .text (.text ""),
      Schema.withDefault "router_ip" .text (.text ""),
      Schema.required "interface_index" .uint32,
      Schema.withDefault "interface_name" .text (.text ""),
      Schema.required "event" Transition.codec.schema,
      Schema.withDefault "admin_status" .int32 (.integer 0),
      Schema.withDefault "oper_status" .int32 (.integer 0),
      Schema.withDefault "timestamp" .text (.text ""),
      Schema.withDefault "trap_oid" .text (.text "")]

def toDatum (e : LinkEvent) : Datum :=
  .record
    [("router_id", .text e.router.text), ("router_name", .text e.routerName),
      ("router_ip", .text e.routerAddress), ("interface_index", .ofUInt32 e.interfaceIndex),
      ("interface_name", .text e.interfaceName), ("event", .choice e.transition.tag),
      ("admin_status", .ofInt32 e.adminStatus), ("oper_status", .ofInt32 e.operStatus),
      ("timestamp", .text e.timestamp), ("trap_oid", .text e.trapOid)]

def ofDatum? : Datum → Option LinkEvent
  | .record [(_, id), (_, name), (_, address), (_, index), (_, interface), (_, event), (_, admin),
      (_, oper), (_, timestamp), (_, oid)] => do
    return ⟨⟨← id.text?⟩, ← name.text?, ← address.text?, ← index.uint32?, ← interface.text?,
      ← Transition.codec.ofDatum? event, ← admin.int32?, ← oper.int32?, ← timestamp.text?,
      ← oid.text?⟩
  | _ => none

def codec : Codec LinkEvent := ⟨schema, toDatum, ofDatum?⟩

/-- The key of an interface. -/
def keyOf (router : String) (index : UInt32) : String := router ++ ":" ++ toString index.toNat

def interfaceKey (e : LinkEvent) : String := keyOf e.router.text e.interfaceIndex

/-- The key under which repetitions of an event are recognised. -/
def throttleKey (e : LinkEvent) : String := e.interfaceKey ++ ":" ++ e.transition.tag

end LinkEvent
end LiveTelemetry
