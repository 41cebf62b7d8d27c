import LiveTelemetry.Link.Event
import LiveTelemetry.Link.Throttle

/-!
Local notifications of link events. A sink is told of an event and may fail at that; nobody waits
for its answer. A throttle in front of a sink keeps repetitions from it.
-/
namespace LiveTelemetry

inductive LogLevel where
  | error
  | warn
  | info
  | debug
  | trace
  deriving DecidableEq

def LogLevel.label : LogLevel → String
  | error => "ERROR"
  | warn => "WARN"
  | info => "INFO"
  | debug => "DEBUG"
  | trace => "TRACE"

/-- A line of the log: its level, its message, and named values. -/
structure LogLine where
  level : LogLevel
  message : String
  fields : List (String × Json)

/-- The line that tells of a link event. -/
def LinkEvent.logLine (e : LinkEvent) : LogLine where
  level := match e.transition with
    | .up => .info
    | .down => .warn
  message := match e.transition with
    | .up => "Interface came up"
    | .down => "Interface went down"
  fields :=
    [("router", .text e.routerName), ("router_id", .text e.router.text),
      ("interface", .text e.interfaceName), ("if_index", .ofNat e.interfaceIndex.toNat)]

/-- What a sink answers when it is told of an event: a line of the log, nothing, or a failure. -/
abbrev Sink := LinkEvent → Except Failure (Option LogLine)

namespace Sink

def logging : Sink := fun e => .ok (some e.logLine)

def silent : Sink := fun _ => .ok none

def failing (f : Failure) : Sink := fun _ => .error f

end Sink

structure Notifier where
  sink : Sink
  throttle : Option Throttle

namespace Notifier

/-- The answer of the sink when it is told of an event, or `none` when the event is held back. -/
def notify (now : Nat) (e : LinkEvent) (n : Notifier) :
    Notifier × Option (Except Failure (Option LogLine)) :=
  match n.throttle with
  | none => (n, some (n.sink e))
  | some t =>
    let (t, allowed) := t.ask now e.throttleKey
    ({ n with throttle := some t }, if allowed then some (n.sink e) else none)

end Notifier
end LiveTelemetry
