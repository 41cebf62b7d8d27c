import LiveTelemetry.Channel.Attempt
import LiveTelemetry.Channel.Delivery

/-!
A channel together with what runs on it: calls, readers and timers, each of which may take its
next step at any time. A run is a list of inputs; every order of inputs that the environment can
bring about is one.
-/
namespace LiveTelemetry

structure Call where
  target : Target
  phase : Phase
  /-- The timer that makes the call, if no caller does. -/
  timer : Option Timer

structure System where
  channel : Channel
  clock : Channel.Clock
  /-- All calls that were made, in their order. -/
  calls : List Call
  /-- The generations of the readers that run. -/
  readers : List Nat
  /-- Timers that are due and have not looked at the channel yet. -/
  woken : List Timer
  /-- Whether a teardown is between its two halves. -/
  tearing : Bool

/-- What can happen next. Calls, readers and timers are named by their positions. -/
inductive Input where
  | connect (device : DeviceId) (vendor : String)
  /-- A call takes its next step. -/
  | proceed (call : Nat)
  | outcome (call : Nat) (o : Outcome)
  /-- The handshake of a call has not ended by its deadline. -/
  | expire (call : Nat)
  /-- A call is given up. -/
  | abandon (call : Nat)
  | disconnect
  /-- A teardown with nothing between its two halves. -/
  | shutdown
  | shut
  | tidy
  | frame (reader : Nat) (f : Frame)
  | ending (reader : Nat) (e : Ending)
  /-- A reader whose channel was closed stops. -/
  | stop (reader : Nat)
  /-- Time passes, in milliseconds. -/
  | pass (ms : Nat)
  | wake (timer : Nat)
  | credential (k : Option Credential)
  | clearStore
  | subscribe (name : String) (log : LinkLog)
  | unsubscribe (id : Nat)

namespace System

def new (c : Channel) (clock : Channel.Clock) : System := ⟨c, clock, [], [], [], false⟩

def setPhase (n : Nat) (p : Phase) (s : System) : System :=
  { s with calls := s.calls.modify n fun k => { k with phase := p } }

/-- A call begins for a target, made by a timer or by a caller. -/
def enter (t : Target) (timer : Option Timer) (s : System) : System :=
  { s with calls := s.calls ++ [⟨t, .entered, timer⟩] }

def proceed (n : Nat) (s : System) : System :=
  match s.calls[n]? with
  | none => s
  | some k =>
    let (channel, phase) := s.channel.proceed s.clock.now k.target k.phase
    ({ s with channel }).setPhase n phase

/-- The handshake of a call ends; an open channel that is kept gets a reader. -/
def conclude (n : Nat) (o : Outcome) (s : System) : System :=
  match s.calls[n]? with
  | some ⟨_, .opening g _ deadline, _⟩ =>
    let o := Channel.timely s.clock.now deadline o s.channel.settings
    let (channel, phase) := s.channel.settle g o
    let readers := match phase with
      | .settled (some true) => s.readers ++ [g]
      | _ => s.readers
    ({ s with channel, readers }).setPhase n phase
  | _ => s

def expire (n : Nat) (s : System) : System :=
  match s.calls[n]? with
  | some ⟨_, .opening _ _ deadline, _⟩ =>
    if deadline ≤ s.clock.now then s.conclude n (.failed (Channel.expired s.channel.settings))
    else s
  | _ => s

/-- A call is given up; only one whose handshake runs has left a trace. -/
def abandon (n : Nat) (s : System) : System :=
  match s.calls[n]? with
  | some ⟨_, .opening g _ _, _⟩ =>
    let (channel, phase) := s.channel.abandon g
    ({ s with channel }).setPhase n phase
  | some ⟨_, .entered, _⟩ => s.setPhase n (.finished none)
  | _ => s

def frame (r : Nat) (f : Frame) (s : System) : System :=
  match s.readers[r]? with
  | none => s
  | some g =>
    let (channel, goesOn) := s.channel.deliver s.clock g f
    { s with channel, readers := if goesOn then s.readers else s.readers.eraseIdx r }

def ending (r : Nat) (e : Ending) (s : System) : System :=
  match s.readers[r]? with
  | none => s
  | some g =>
    { s with channel := s.channel.finish s.clock.now g e, readers := s.readers.eraseIdx r }

def stop (r : Nat) (s : System) : System :=
  match s.readers[r]? with
  | none => s
  | some g => if s.channel.reader = some g then s else { s with readers := s.readers.eraseIdx r }

/-- Time passes; a timer that comes due wakes up. -/
def pass (ms : Nat) (s : System) : System :=
  let now := s.clock.now + ms
  let due := match s.channel.timer with
    | none => []
    | some t => if t.due ≤ now && !s.woken.contains t then [t] else []
  { s with clock := { s.clock with now }, woken := s.woken ++ due }

def wake (i : Nat) (s : System) : System :=
  match s.woken[i]? with
  | none => s
  | some t =>
    let (channel, target) := s.channel.wake t
    let s := { s with channel, woken := s.woken.eraseIdx i }
    match target with
    | none => s
    | some target => s.enter target (some t)

def shut (s : System) : System :=
  { s with channel := s.channel.shut, tearing := s.tearing || !s.channel.shutDown }

def tidy (s : System) : System :=
  if s.tearing then { s with channel := s.channel.tidy, tearing := false } else s

def step (s : System) : Input → System
  | .connect device vendor => s.enter (.ofRequest s.channel.settings device vendor) none
  | .proceed n => s.proceed n
  | .outcome n o => s.conclude n o
  | .expire n => s.expire n
  | .abandon n => s.abandon n
  | .disconnect => { s with channel := s.channel.disconnect }
  | .shutdown => { s with channel := s.channel.shutdown }
  | .shut => s.shut
  | .tidy => s.tidy
  | .frame r f => s.frame r f
  | .ending r e => s.ending r e
  | .stop r => s.stop r
  | .pass ms => s.pass ms
  | .wake i => s.wake i
  | .credential k => { s with channel := s.channel.setCredential k }
  | .clearStore => { s with channel := s.channel.clearStore }
  | .subscribe name log => { s with channel := (s.channel.subscribe name log).1 }
  | .unsubscribe id => { s with channel := (s.channel.unsubscribe id).1 }

def run (s : System) (inputs : List Input) : System := inputs.foldl step s

/-- The address at which a call waits for its handshake. -/
def waitingFor? (n : Nat) (s : System) : Option Url :=
  match s.calls[n]? with
  | some ⟨_, .opening _ u _, _⟩ => some u
  | _ => none

/-- What a call has returned. -/
def result? (n : Nat) (s : System) : Option Bool :=
  match s.calls[n]? with
  | some ⟨_, .finished r, _⟩ => r
  | _ => none

/-- Lets a call run until it waits or is over; five steps are enough. -/
def settleCall (n : Nat) (s : System) : System := s.run (List.replicate 5 (.proceed n))

/-- Makes a call and runs it up to its handshake. -/
def call (device : DeviceId) (vendor : String) (s : System) : System × Nat :=
  let n := s.calls.length
  ((s.step (.connect device vendor)).settleCall n, n)

/-- Ends the handshake of a call, and the call with it. -/
def answer (n : Nat) (o : Outcome) (s : System) : System := (s.conclude n o).settleCall n

/-- A system at rest, as examples start from it. -/
def resting : System := new (.new {} 50 (.ofToken (some "t"))) ⟨0, "now"⟩

/-- A call has opened the channel. -/
def streaming : System := (resting.call ⟨"r1"⟩ "").1.answer 0 .opened

/-- The backend has closed the channel again. -/
def lost : System := streaming.ending 0 .closed

example : streaming.channel.state = .connected ∧ streaming.result? 0 = some true := by
  decide +kernel

example : ((streaming.call ⟨"r1"⟩ "generic").1.result? 1) = some true := by decide +kernel

example : lost.channel.state = .disconnected ∧
    lost.channel.timer = some ⟨1, 5000, ⟨⟨"r1"⟩, "generic"⟩⟩ := by decide +kernel

/-- The timer wakes when it is due, and its call waits for a handshake. -/
example : ((((lost.pass 4999).woken.length, (lost.pass 5000).woken.length),
    (((lost.pass 5000).wake 0).settleCall 1).channel.state)) = ((0, 1), .connecting) := by
  decide +kernel

/-- A handshake that ends too late has failed. -/
example : (((resting.call ⟨"r1"⟩ "").1.pass 10001).answer 0 .opened).channel.lastError =
    some (Channel.expired {}) := by decide +kernel

/-- After a disconnection the same timer does nothing. -/
example : (((lost.pass 5000).step .disconnect).wake 0).calls.length = 1 := by decide +kernel

theorem run_append (s : System) (a b : List Input) : s.run (a ++ b) = (s.run a).run b := by
  simp [run]

end System
end LiveTelemetry
