import LiveTelemetry.Channel.System

/-!
Whole operations on a channel. Each lets a call, a reader or a timer run without interruption until
it waits or is over, and time passes only up to the next moment at which something is due.
-/
namespace LiveTelemetry

/-- What can be done next. Calls, readers and timers are named by their positions. -/
inductive Operation where
  | connect (device : DeviceId) (vendor : String)
  | outcome (call : Nat) (o : Outcome)
  | expire (call : Nat)
  | abandon (call : Nat)
  | disconnect
  | shutdown
  | frame (reader : Nat) (f : Frame)
  | ending (reader : Nat) (e : Ending)
  | stop (reader : Nat)
  /-- A timer that is due looks at the channel and makes its call. -/
  | fire (timer : Nat)
  | wait (ms : Nat)
  | credential (k : Option Credential)
  | clearStore
  | subscribe (name : String) (log : LinkLog)
  | unsubscribe (id : Nat)

namespace System

/-- The moments at which the pending timer and the handshakes are due. -/
def deadlines (s : System) : List Nat :=
  (s.channel.timer.map Timer.due).toList ++ s.calls.filterMap fun k =>
    match k.phase with
    | .opening _ _ deadline => some deadline
    | _ => none

/-- How much of a time passes before something is due. -/
def idle (ms : Nat) (s : System) : Nat :=
  s.deadlines.foldl (fun ms deadline => min ms (deadline - s.clock.now)) ms

/-- The inputs of a call that runs up to its handshake, or to its end if the handshake is over. -/
def settling (n : Nat) : List Input := List.replicate 5 (.proceed n)

def inputs (s : System) : Operation → List Input
  | .connect device vendor => .connect device vendor :: settling s.calls.length
  | .outcome n o => .outcome n o :: settling n
  | .expire n => .expire n :: settling n
  | .abandon n => .abandon n :: settling n
  | .disconnect => [.disconnect]
  | .shutdown => [.shutdown]
  | .frame r f => [.frame r f]
  | .ending r e => [.ending r e]
  | .stop r => [.stop r]
  | .fire i => .wake i :: settling s.calls.length
  | .wait ms => [.pass (s.idle ms)]
  | .credential k => [.credential k]
  | .clearStore => [.clearStore]
  | .subscribe name log => [.subscribe name log]
  | .unsubscribe id => [.unsubscribe id]

def perform (s : System) (op : Operation) : System := s.run (s.inputs op)

def performAll (s : System) (ops : List Operation) : System := ops.foldl perform s

/-- The timer is due when it fires, and waiting longer does not put it off. -/
example : (lost.performAll [.wait 3000, .wait 3000, .wait 3000, .fire 0]).clock.now = 5000 ∧
    (lost.performAll [.wait 3000, .wait 3000, .wait 3000, .fire 0]).channel.state =
      .connecting := by decide +kernel

theorem perform_connect (device : DeviceId) (vendor : String) (s : System) :
    s.perform (.connect device vendor) =
      (s.enter (.ofRequest s.channel.settings device vendor) none).settleCall s.calls.length := rfl

theorem perform_outcome (n : Nat) (o : Outcome) (s : System) :
    s.perform (.outcome n o) = (s.conclude n o).settleCall n := rfl

theorem perform_expire (n : Nat) (s : System) :
    s.perform (.expire n) = (s.expire n).settleCall n := rfl

theorem perform_abandon (n : Nat) (s : System) :
    s.perform (.abandon n) = (s.abandon n).settleCall n := rfl

theorem perform_fire (i : Nat) (s : System) :
    s.perform (.fire i) = (s.wake i).settleCall s.calls.length := rfl

end System
end LiveTelemetry
