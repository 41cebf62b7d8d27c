import LiveTelemetry.Link.Log

/-!
Observers of link events. Logs are kept under names; a subscription ties an identifier to the name
of a log, and every event goes once through each subscription.
-/
namespace LiveTelemetry

/-- Logs by name. -/
abbrev Logs := Table LinkLog

structure Observers where
  /-- The identifier that the next subscription gets. -/
  next : Nat
  /-- Identifiers with the names of the logs that observe. -/
  subscriptions : List (Nat × String)

namespace Observers

def empty : Observers := ⟨0, []⟩

def subscribe (log : String) (o : Observers) : Observers × Nat :=
  (⟨o.next + 1, o.subscriptions ++ [(o.next, log)]⟩, o.next)

def unsubscribe (id : Nat) (o : Observers) : Observers × Bool :=
  ({ o with subscriptions := o.subscriptions.filter fun s => s.1 != id },
    o.subscriptions.any fun s => s.1 == id)

def clear (o : Observers) : Observers := { o with subscriptions := [] }

def count (o : Observers) : Nat := o.subscriptions.length

def isEmpty (o : Observers) : Bool := o.subscriptions.isEmpty

/-- What a log does with an event, told with the log's name. -/
abbrev Told := String × LinkLog.Ingestion

/-- Gives an event to one log. -/
def deliver (now : Nat) (e : LinkEvent) (log : String) (state : Logs × List Told) :
    Logs × List Told :=
  match Table.lookup log state.1 with
  | none => state
  | some l =>
    let i := l.ingest now e
    (Table.put log i.log state.1, state.2 ++ [(log, i)])

/-- Gives an event to every subscription, and says how many there were. -/
def dispatch (now : Nat) (e : LinkEvent) (logs : Logs) (o : Observers) : Logs × List Told × Nat :=
  let (logs, told) := o.subscriptions.foldl (fun state s => deliver now e s.2 state) (logs, [])
  (logs, told, o.count)

/-- Diagnostic text. -/
def diagnostic (o : Observers) : String := s!"ObserverRegistry \x7b observers: {o.count} \x7d"

end Observers
end LiveTelemetry
