import LiveTelemetry.Channel.Basic
import LiveTelemetry.Message
import LiveTelemetry.Text.Utf8

/-!
What readers bring in, and how the channel ends under them. A reader whose generation is no longer
current changes nothing, and is told to stop.
-/
namespace LiveTelemetry

/-- What a reader gets from an open channel. -/
inductive Frame where
  | text (raw : String)
  | binary (octets : List UInt8)
  /-- A frame that keeps the channel alive. -/
  | idle

/-- Why an open channel ends. -/
inductive Ending where
  | closed
  | failed (f : Failure)

namespace Channel

/-- The time, as counted in milliseconds and as it is written for samples that lack one. -/
structure Clock where
  now : Nat
  text : String

def undecodable : Failure := .protocol "Binary frame is not UTF-8 JSON"

def closedByBackend : Failure := .transport "Push channel closed by backend"

/-- Drops a frame that cannot be understood. The channel stays open. -/
def dropFrame (f : Failure) (c : Channel) : Channel :=
  { c.record f with counters := c.counters.drop }

/-- Stores a sample, after what its message says about the device. -/
def takeMetric (m : MetricMessage) (c : Channel) : Channel :=
  let (store, stored) := (c.store.annotate m.device m.info).ingest m.device m.sample
  { c with store, counters := c.counters.sample stored }

/-- Hands a link event to the observers. -/
def takeLink (now : Nat) (e : LinkEvent) (c : Channel) : Channel :=
  let (logs, _, _) := c.observers.dispatch (now * 1000000) e c.logs
  { c with logs, counters := c.counters.event }

/-- Routes the text of a frame. -/
def route (clock : Clock) (raw : String) (c : Channel) : Channel :=
  let c := { c with counters := c.counters.receive }
  match Message.parse clock.text raw with
  | .ok (.metric m) => c.takeMetric m
  | .ok (.link e) => c.takeLink clock.now e
  | .error r => c.dropFrame r.toFailure

/-- Takes a frame from the reader of generation `g`, and says whether that reader goes on. -/
def deliver (clock : Clock) (g : Nat) (f : Frame) (c : Channel) : Channel × Bool :=
  match f with
  | .idle => (c, true)
  | .text raw => if c.isCurrent g then (c.route clock raw, true) else (c, false)
  | .binary octets =>
    if c.isCurrent g then
      match Text.Utf8.decode? octets with
      | some raw => (c.route clock raw, true)
      | none => (c.dropFrame undecodable, true)
    else (c, false)

/-- Plans to open a lost channel again. -/
def schedule (now g : Nat) (c : Channel) : Channel :=
  match c.target with
  | none => c
  | some t =>
    { c with
      timer := some ⟨g, now + c.settings.reconnectMilliseconds, t⟩
      counters := c.counters.scheduleReconnect }

/-- The channel has ended under the reader of generation `g`. -/
def finish (now g : Nat) (e : Ending) (c : Channel) : Channel :=
  if c.isCurrent g then
    let f := match e with
      | .closed => closedByBackend
      | .failed f => f
    let lost := { c.record f with reader := none, state := .disconnected }
    if c.state = .connected ∧ c.reconnectAllowed ∧ c.settings.autoReconnect then lost.schedule now g
    else lost
  else c

/-- A timer that is due looks whether it still counts; if so, a call for its target begins. -/
def wake (t : Timer) (c : Channel) : Channel × Option Target :=
  if c.isCurrent t.generation && c.reconnectAllowed then ({ c with timer := none }, some t.target)
  else (c, none)

theorem deliver_of_not_isCurrent {clock : Clock} {g : Nat} {f : Frame} {c : Channel}
    (h : c.isCurrent g = false) : (c.deliver clock g f).1 = c := by
  cases f <;> simp [deliver, h]

theorem finish_of_not_isCurrent {now g : Nat} {e : Ending} {c : Channel}
    (h : c.isCurrent g = false) : c.finish now g e = c := by
  simp [finish, h]

theorem wake_of_not_isCurrent {t : Timer} {c : Channel} (h : c.isCurrent t.generation = false) :
    c.wake t = (c, none) := by
  simp [wake, h]

/-- Octets that hold text count as that text. -/
theorem deliver_binary {clock : Clock} {g : Nat} {octets : List UInt8} {raw : String} {c : Channel}
    (h : Text.Utf8.decode? octets = some raw) :
    c.deliver clock g (.binary octets) = c.deliver clock g (.text raw) := by
  simp [deliver, h]

end Channel
end LiveTelemetry
