import LiveTelemetry.Channel.Counters
import LiveTelemetry.Channel.State
import LiveTelemetry.Channel.Target
import LiveTelemetry.Link.Observers
import LiveTelemetry.Reading.Store

/-!
The managed push channel of one client. At most one attempt to open it runs at a time, and at most
one reader feeds it. Every attempt and every disconnection begins a new generation, so that
readers and timers of older ones can be told apart and stand down. Their number is kept in a word
of 64 bits; here it is a natural number, which is the same while fewer than `2 ^ 64` generations
begin.
-/
namespace LiveTelemetry

/-- A reconnection that is planned: by whom, for when, and to which target. -/
structure Timer where
  /-- The generation that was in force when the timer was set, below `2 ^ 64`. -/
  generation : Nat
  /-- The time at which it is due, in milliseconds. -/
  due : Nat
  target : Target
  deriving DecidableEq

structure Channel where
  settings : ChannelSettings
  credentials : CredentialSlot
  state : ChannelState
  /-- Whether some attempt runs. -/
  attempting : Bool
  /-- The target that was asked for last. -/
  target : Option Target
  /-- The generation in force, below `2 ^ 64`. -/
  generation : Nat
  /-- The generation of the reader of the open channel. -/
  reader : Option Nat
  timer : Option Timer
  /-- Whether a lost channel may be opened again; cleared by a disconnection. -/
  reconnectAllowed : Bool
  shutDown : Bool
  store : Store
  observers : Observers
  /-- The logs that may observe, by name. -/
  logs : Logs
  lastError : Option Failure
  counters : Counters

namespace Channel

/-- A channel that nobody has asked for yet, with a store for `n` samples of each metric. -/
def new (settings : ChannelSettings) (n : Nat) (credentials : CredentialSlot) : Channel where
  settings
  credentials
  state := .disconnected
  attempting := false
  target := none
  generation := 0
  reader := none
  timer := none
  reconnectAllowed := false
  shutDown := false
  store := .new n
  observers := .empty
  logs := []
  lastError := none
  counters := .zero

/-- Whether a generation is the one in force. -/
def isCurrent (g : Nat) (c : Channel) : Bool := c.generation == g && !c.shutDown

def record (f : Failure) (c : Channel) : Channel := { c with lastError := some f }

/-- Begins a new generation: the open channel is closed and the timer cancelled. -/
def renew (c : Channel) : Channel :=
  { c with generation := c.generation + 1, reader := none, timer := none }

/-- Closes the channel on the user's behalf. -/
def disconnect (c : Channel) : Channel :=
  { c.renew with reconnectAllowed := false, state := .disconnected }

/-- The first half of a teardown, for good: nothing is current from here on. -/
def shut (c : Channel) : Channel :=
  if c.shutDown then c else { c.renew with reconnectAllowed := false, shutDown := true }

/-- The second half of a teardown, which only the one that has shut the channel gets to. -/
def tidy (c : Channel) : Channel :=
  { c with observers := c.observers.clear, state := .disconnected }

/-- Tears the channel down for good. -/
def shutdown (c : Channel) : Channel := if c.shutDown then c else c.shut.tidy

/-- Adds a log as an observer of link events. -/
def subscribe (name : String) (log : LinkLog) (c : Channel) : Channel × Nat :=
  let (observers, id) := c.observers.subscribe name
  ({ c with observers, logs := Table.put name log c.logs }, id)

def unsubscribe (id : Nat) (c : Channel) : Channel × Bool :=
  let (observers, removed) := c.observers.unsubscribe id
  ({ c with observers }, removed)

def setCredential (k : Option Credential) (c : Channel) : Channel := { c with credentials := ⟨k⟩ }

def clearStore (c : Channel) : Channel := { c with store := c.store.clear }

/-- Diagnostic text. -/
def diagnostic (c : Channel) : String :=
  let target := match c.target with
    | none => "None"
    | some t => "Some(" ++ t.diagnostic ++ ")"
  "ConnectionManager \x7b state: " ++ c.state.name ++ ", target: " ++ target ++
    s!", observers: {c.observers.count} \x7d"

@[simp] theorem state_disconnect (c : Channel) : c.disconnect.state = .disconnected := rfl

@[simp] theorem shutDown_shut (c : Channel) : c.shut.shutDown = true := by
  unfold shut
  split <;> simp_all

@[simp] theorem shutDown_tidy (c : Channel) : c.tidy.shutDown = c.shutDown := rfl

@[simp] theorem shutDown_shutdown (c : Channel) : c.shutdown.shutDown = true := by
  unfold shutdown
  split <;> simp_all

end Channel
end LiveTelemetry
