import LiveTelemetry.Table

/-!
Throttling of repeated notifications: within a window after a key was let through, the same key is
held back. Time is a reading of a clock that never goes back, in nanoseconds.
-/
namespace LiveTelemetry

structure Throttle where
  /-- The window in nanoseconds. -/
  window : Nat
  /-- When each key was let through last. -/
  seen : Table Nat

namespace Throttle

def ofMilliseconds (ms : UInt64) : Throttle := ⟨ms.toNat * 1000000, []⟩

/-- Whether a key is held back at a time. -/
def holds (now : Nat) (key : String) (t : Throttle) : Bool :=
  match Table.lookup key t.seen with
  | none => false
  | some last => now - last < t.window

/-- Asks to let a key through. Entries are kept for ten windows. -/
def ask (now : Nat) (key : String) (t : Throttle) : Throttle × Bool :=
  if t.holds now key then (t, false)
  else
    let seen := (Table.put key now t.seen).filter fun e => now - e.2 < t.window * 10
    ({ t with seen }, true)

@[simp] theorem window_ask (now : Nat) (key : String) (t : Throttle) :
    (t.ask now key).1.window = t.window := by
  unfold ask
  split <;> rfl

end Throttle
end LiveTelemetry
