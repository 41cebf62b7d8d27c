import LiveTelemetry.Schema.Basic

/-!
Counters of a push channel.
-/
namespace LiveTelemetry

structure Counters where
  received : UInt64
  ingested : UInt64
  deduplicated : UInt64
  events : UInt64
  dropped : UInt64
  attempts : UInt64
  opened : UInt64
  reconnects : UInt64
  deriving DecidableEq

namespace Counters

def zero : Counters := ⟨0, 0, 0, 0, 0, 0, 0, 0⟩

def receive (c : Counters) : Counters := { c with received := c.received + 1 }

/-- Counts a sample, as stored or as a repetition. -/
def sample (stored : Bool) (c : Counters) : Counters :=
  if stored then { c with ingested := c.ingested + 1 }
  else { c with deduplicated := c.deduplicated + 1 }

def event (c : Counters) : Counters := { c with events := c.events + 1 }

def drop (c : Counters) : Counters := { c with dropped := c.dropped + 1 }

def attempt (c : Counters) : Counters := { c with attempts := c.attempts + 1 }

def openSession (c : Counters) : Counters := { c with opened := c.opened + 1 }

def scheduleReconnect (c : Counters) : Counters := { c with reconnects := c.reconnects + 1 }

def codec : Codec Counters where
  schema := .record "MetricsSnapshot"
    [Schema.required "messages_received" .uint64, Schema.required "samples_ingested" .uint64,
      Schema.required "samples_deduplicated" .uint64, Schema.required "events_dispatched" .uint64,
      Schema.required "messages_dropped" .uint64, Schema.required "connect_attempts" .uint64,
      Schema.required "sessions_opened" .uint64, Schema.required "reconnects_scheduled" .uint64]
  toDatum c := .record
    [("messages_received", .ofUInt64 c.received), ("samples_ingested", .ofUInt64 c.ingested),
      ("samples_deduplicated", .ofUInt64 c.deduplicated), ("events_dispatched", .ofUInt64 c.events),
      ("messages_dropped", .ofUInt64 c.dropped), ("connect_attempts", .ofUInt64 c.attempts),
      ("sessions_opened", .ofUInt64 c.opened), ("reconnects_scheduled", .ofUInt64 c.reconnects)]
  ofDatum?
    | .record [(_, a), (_, b), (_, c), (_, d), (_, e), (_, f), (_, g), (_, h)] => do
      return ⟨← a.uint64?, ← b.uint64?, ← c.uint64?, ← d.uint64?, ← e.uint64?, ← f.uint64?,
        ← g.uint64?, ← h.uint64?⟩
    | _ => none

end Counters
end LiveTelemetry
