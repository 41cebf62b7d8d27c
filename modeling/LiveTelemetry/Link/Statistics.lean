import LiveTelemetry.Link.Event

/-!
Running totals over link events.
-/
namespace LiveTelemetry

structure InterfaceCounts where
  up : UInt64
  down : UInt64
  deriving DecidableEq

namespace InterfaceCounts

def zero : InterfaceCounts := ⟨0, 0⟩

def count : Transition → InterfaceCounts → InterfaceCounts
  | .up, c => { c with up := c.up + 1 }
  | .down, c => { c with down := c.down + 1 }

def codec : Codec InterfaceCounts where
  schema := .record "InterfaceCounters"
    [Schema.required "up" .uint64, Schema.required "down" .uint64]
  toDatum c := .record [("up", .ofUInt64 c.up), ("down", .ofUInt64 c.down)]
  ofDatum?
    | .record [(_, u), (_, d)] => do return ⟨← u.uint64?, ← d.uint64?⟩
    | _ => none

end InterfaceCounts

structure Statistics where
  total : UInt64
  up : UInt64
  down : UInt64
  perInterface : Table InterfaceCounts
  last : Option LinkEvent

namespace Statistics

def empty : Statistics := ⟨0, 0, 0, [], none⟩

def countsOf (key : String) (s : Statistics) : InterfaceCounts :=
  (Table.lookup key s.perInterface).getD .zero

def interface (router : String) (index : UInt32) (s : Statistics) : InterfaceCounts :=
  s.countsOf (LinkEvent.keyOf router index)

def record (e : LinkEvent) (s : Statistics) : Statistics where
  total := s.total + 1
  up := if e.transition = .up then s.up + 1 else s.up
  down := if e.transition = .down then s.down + 1 else s.down
  perInterface :=
    Table.put e.interfaceKey ((s.countsOf e.interfaceKey).count e.transition) s.perInterface
  last := some e

def entryOfDatum? (entry : String × Datum) : Option (String × InterfaceCounts) :=
  (InterfaceCounts.codec.ofDatum? entry.2).map (entry.1, ·)

def codec : Codec Statistics where
  schema := .record "TrapStatistics"
    [Schema.required "total_events" .uint64, Schema.required "link_up_count" .uint64,
      Schema.required "link_down_count" .uint64,
      Schema.required "per_interface" (.table InterfaceCounts.codec.schema),
      Schema.required "last_event" (.optional LinkEvent.schema)]
  toDatum s := .record
    [("total_events", .ofUInt64 s.total), ("link_up_count", .ofUInt64 s.up),
      ("link_down_count", .ofUInt64 s.down),
      ("per_interface",
        .table (s.perInterface.map fun (k, c) => (k, InterfaceCounts.codec.toDatum c))),
      ("last_event", .ofOption LinkEvent.toDatum s.last)]
  ofDatum?
    | .record [(_, t), (_, u), (_, d), (_, .table p), (_, l)] => do
      return ⟨← t.uint64?, ← u.uint64?, ← d.uint64?, ← p.mapM entryOfDatum?,
        ← l.optional? LinkEvent.ofDatum?⟩
    | _ => none

theorem countsOf_record (e : LinkEvent) (s : Statistics) (key : String) :
    (s.record e).countsOf key =
      if key = e.interfaceKey then (s.countsOf key).count e.transition else s.countsOf key := by
  unfold record countsOf
  dsimp only
  rw [Table.lookup_put]
  split <;> simp_all

end Statistics
end LiveTelemetry
