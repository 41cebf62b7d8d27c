import LiveTelemetry.Link.Notifier
import LiveTelemetry.Link.Statistics

/-!
Bounded logs of link events, newest first, with statistics over all events that were accepted. A log
accepts the events that its filter matches at that time; reading applies the filter in force.
-/
namespace LiveTelemetry

structure LinkLog where
  /-- Newest first. -/
  buffer : List LinkEvent
  capacity : Nat
  statistics : Statistics
  filter : Option DeviceId
  notifier : Option Notifier

namespace LinkLog

/-- An unfiltered log for `n` events, but at least one. -/
def new (n : Nat) : LinkLog := ⟨[], max n 1, .empty, none, none⟩

def filtered (n : Nat) (router : DeviceId) : LinkLog := { new n with filter := some router }

def withNotifier (n : Notifier) (l : LinkLog) : LinkLog := { l with notifier := some n }

def passes (filter : Option DeviceId) (e : LinkEvent) : Bool :=
  match filter with
  | none => true
  | some router => router == e.router

/-- What comes of an event: the log, whether it was accepted, and the answer of the sink if it was
told. -/
structure Ingestion where
  log : LinkLog
  accepted : Bool
  notified : Option (Except Failure (Option LogLine))

def ingest (now : Nat) (e : LinkEvent) (l : LinkLog) : Ingestion :=
  if passes l.filter e then
    let (notifier, notified) := match l.notifier with
      | none => (none, none)
      | some n => (some (n.notify now e).1, (n.notify now e).2)
    { log := { l with
        buffer := (e :: l.buffer).take l.capacity
        statistics := l.statistics.record e
        notifier }
      accepted := true
      notified }
  else ⟨l, false, none⟩

/-- The buffered events that the filter in force lets through. -/
def events (l : LinkLog) : List LinkEvent := l.buffer.filter (passes l.filter)

def eventsFor (router : String) (l : LinkLog) : List LinkEvent :=
  l.buffer.filter fun e => e.router.text == router

def setFilter (router : Option DeviceId) (l : LinkLog) : LinkLog := { l with filter := router }

def size (l : LinkLog) : Nat := l.buffer.length

def isEmpty (l : LinkLog) : Bool := l.buffer.isEmpty

def clearEvents (l : LinkLog) : LinkLog := { l with buffer := [] }

def clearStatistics (l : LinkLog) : LinkLog := { l with statistics := .empty }

def clearAll (l : LinkLog) : LinkLog := l.clearEvents.clearStatistics

/-- Diagnostic text. -/
def diagnostic (l : LinkLog) : String :=
  let filter := match l.filter with
    | none => "None"
    | some d => "Some(" ++ d.quoted ++ ")"
  s!"TrapEventLog \x7b events: {l.size}, max_events: {l.capacity}, filter: {filter}, " ++
    s!"notifier: {l.notifier.isSome} \x7d"

theorem ingest_of_passes {now : Nat} {e : LinkEvent} {l : LinkLog} (h : passes l.filter e = true) :
    (l.ingest now e).log.buffer = (e :: l.buffer).take l.capacity ∧
      (l.ingest now e).log.statistics = l.statistics.record e ∧
      (l.ingest now e).log.filter = l.filter ∧ (l.ingest now e).log.capacity = l.capacity ∧
      (l.ingest now e).accepted = true := by
  simp [ingest, h]

theorem ingest_of_not_passes {now : Nat} {e : LinkEvent} {l : LinkLog}
    (h : passes l.filter e = false) : l.ingest now e = ⟨l, false, none⟩ := by
  simp [ingest, h]

end LinkLog
end LiveTelemetry
