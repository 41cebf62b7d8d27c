import LiveTelemetry.Link.Log
import Mathlib.Data.List.Induction
import Mathlib.Tactic.Common

/-!
What a log holds after any operations on it. Main statement: the buffer holds the newest of the
events that were accepted since it was last cleared, where the filter decides at the time at which
an event comes; and reading shows of it what the filter in force lets through.
-/
namespace LiveTelemetry.LinkLog

/-- What can be done with a log. -/
inductive Operation where
  | ingest (now : Nat) (e : LinkEvent)
  | setFilter (router : Option DeviceId)
  | clearEvents
  | clearStatistics
  | clearAll

/-- The parts of a log that can be cleared apart from each other. -/
inductive Part where
  | buffer
  | statistics

namespace Operation

def event? : Operation → Option LinkEvent
  | ingest _ e => some e
  | _ => none

def clears (op : Operation) (p : Part) : Bool :=
  match op, p with
  | clearEvents, .buffer | clearStatistics, .statistics | clearAll, _ => true
  | _, _ => false

/-- The filter in force behind an operation, if it was `f` before. -/
def filter (f : Option DeviceId) : Operation → Option DeviceId
  | setFilter router => router
  | _ => f

end Operation

def perform (l : LinkLog) : Operation → LinkLog
  | .ingest now e => (l.ingest now e).log
  | .setFilter router => l.setFilter router
  | .clearEvents => l.clearEvents
  | .clearStatistics => l.clearStatistics
  | .clearAll => l.clearAll

def performAll (l : LinkLog) (ops : List Operation) : LinkLog := ops.foldl perform l

/-- A log as it is created: for `n` events but at least one, with or without a filter and a
notifier. -/
def fresh (n : Nat) (f : Option DeviceId) (x : Option Notifier) : LinkLog :=
  { new n with filter := f, notifier := x }

/-- A filter lets all events through, or those of the device that it names. -/
def Admits (f : Option DeviceId) (e : LinkEvent) : Prop := f = none ∨ f = some e.router

instance (f : Option DeviceId) (e : LinkEvent) : Decidable (Admits f e) :=
  inferInstanceAs (Decidable (_ ∨ _))

/-- The filter in force behind some operations, if it was `f` before. -/
def filterAfter (f : Option DeviceId) (ops : List Operation) : Option DeviceId :=
  ops.foldl Operation.filter f

/-- The operations without the events that the filter in force at their time does not let
through. -/
def admitted (f : Option DeviceId) : List Operation → List Operation
  | [] => []
  | op :: ops =>
    if ∀ e ∈ op.event?, Admits f e then op :: admitted (op.filter f) ops
    else admitted (op.filter f) ops

/-- The events that were accepted since a part was last cleared, in the order of arrival. -/
def acceptedSince (p : Part) (f : Option DeviceId) (ops : List Operation) : List LinkEvent :=
  (((admitted f ops).reverse.takeWhile fun op => !op.clears p).reverse).filterMap Operation.event?

lemma passes_eq (f : Option DeviceId) (e : LinkEvent) : passes f e = decide (Admits f e) := by
  cases f with
  | none => simp [passes, Admits]
  | some router => simp [passes, Admits, beq_eq_decide]

lemma admitted_push (f : Option DeviceId) (ops : List Operation) (op : Operation) :
    admitted f (ops ++ [op]) =
      if ∀ e ∈ op.event?, Admits (filterAfter f ops) e then admitted f ops ++ [op]
      else admitted f ops := by
  induction ops generalizing f with
  | nil => simp [admitted, filterAfter]
  | cons o ops ih =>
    have hf : filterAfter f (o :: ops) = filterAfter (o.filter f) ops := rfl
    simp only [List.cons_append, admitted, ih, hf]
    split_ifs <;> rfl

/-- What one more operation makes of the events that were accepted. -/
lemma acceptedSince_push (p : Part) (f : Option DeviceId) (ops : List Operation) (op : Operation) :
    acceptedSince p f (ops ++ [op]) =
      if op.clears p then []
      else acceptedSince p f ops ++
        op.event?.toList.filter fun e => decide (Admits (filterAfter f ops) e) := by
  unfold acceptedSince
  rw [admitted_push]
  cases op with
  | ingest now e =>
    by_cases h : Admits (filterAfter f ops) e <;>
      simp [Operation.event?, Operation.clears, h]
  | setFilter | clearEvents | clearStatistics | clearAll =>
    cases p <;> simp [Operation.event?, Operation.clears]

variable {l : LinkLog} {n : Nat} {f : Option DeviceId} {x : Option Notifier}

lemma performAll_push (l : LinkLog) (ops : List Operation) (op : Operation) :
    l.performAll (ops ++ [op]) = (l.performAll ops).perform op := by
  simp [performAll]

lemma ingest_of_admits {e : LinkEvent} (now : Nat) (h : Admits l.filter e) :
    (l.ingest now e).log.buffer = (e :: l.buffer).take l.capacity ∧
      (l.ingest now e).log.statistics = l.statistics.record e ∧
      (l.ingest now e).log.filter = l.filter ∧ (l.ingest now e).log.capacity = l.capacity ∧
      (l.ingest now e).accepted = true :=
  ingest_of_passes (by rw [passes_eq, decide_eq_true h])

/-- An event that is not let through changes nothing, and nobody is told of it. -/
lemma ingest_of_not_admits {e : LinkEvent} (now : Nat) (h : ¬Admits l.filter e) :
    l.ingest now e = ⟨l, false, none⟩ :=
  ingest_of_not_passes (by rw [passes_eq, decide_eq_false h])

lemma capacity_perform (l : LinkLog) (op : Operation) : (l.perform op).capacity = l.capacity := by
  cases op with
  | ingest now e =>
    by_cases h : Admits l.filter e
    · exact (ingest_of_admits now h).2.2.2.1
    · rw [perform, ingest_of_not_admits now h]
  | _ => rfl

lemma filter_perform (l : LinkLog) (op : Operation) :
    (l.perform op).filter = op.filter l.filter := by
  cases op with
  | ingest now e =>
    by_cases h : Admits l.filter e
    · exact (ingest_of_admits now h).2.2.1
    · rw [perform, ingest_of_not_admits now h]
      rfl
  | _ => rfl

@[simp] lemma capacity_performAll (l : LinkLog) (ops : List Operation) :
    (l.performAll ops).capacity = l.capacity := by
  induction ops generalizing l with
  | nil => rfl
  | cons op ops ih => exact (ih _).trans (l.capacity_perform op)

lemma filter_performAll (l : LinkLog) (ops : List Operation) :
    (l.performAll ops).filter = filterAfter l.filter ops := by
  induction ops generalizing l with
  | nil => rfl
  | cons op ops ih =>
    have h := ih (l.perform op)
    rw [filter_perform] at h
    exact h

lemma take_cons_take {α : Type} {m : Nat} (hm : 0 < m) (y : α) (ys : List α) :
    (y :: ys.take m).take m = (y :: ys).take m := by
  obtain ⟨k, rfl⟩ := Nat.exists_eq_add_of_lt hm
  simp [List.take_take]

theorem buffer_performAll (n : Nat) (f : Option DeviceId) (x : Option Notifier)
    (ops : List Operation) : ((fresh n f x).performAll ops).buffer =
      (acceptedSince .buffer f ops).reverse.take (max n 1) := by
  induction ops using List.reverseRecOn with
  | nil => simp [performAll, fresh, new, acceptedSince, admitted]
  | append_singleton ops op ih =>
    have hcap : ((fresh n f x).performAll ops).capacity = max n 1 := capacity_performAll ..
    have hf : ((fresh n f x).performAll ops).filter = filterAfter f ops := filter_performAll ..
    rw [performAll_push, acceptedSince_push]
    cases op with
    | ingest now e =>
      by_cases h : Admits (filterAfter f ops) e
      · rw [perform, (ingest_of_admits now (hf ▸ h)).1, hcap, ih,
          take_cons_take (Nat.le_max_right n 1)]
        simp [Operation.clears, Operation.event?, h]
      · rw [perform, ingest_of_not_admits now (hf ▸ h), ih]
        simp [Operation.clears, Operation.event?, h]
    | setFilter | clearStatistics =>
      simpa [Operation.clears, Operation.event?, perform, setFilter, LinkLog.clearStatistics]
        using ih
    | clearEvents | clearAll =>
      simp [Operation.clears, perform, clearAll, LinkLog.clearEvents, LinkLog.clearStatistics]

/-- Reading goes through the filter in force. -/
lemma events_eq (l : LinkLog) : l.events = l.buffer.filter fun e => Admits l.filter e := by
  unfold events
  congr 1
  funext e
  exact passes_eq l.filter e

/-- The buffer holds, newest first, the last of the events that were accepted since it was cleared.
An event is accepted if the filter in force lets it through, and otherwise changes nothing. Reading
shows the part of the buffer that the filter in force lets through, or that is of one device; and
another filter changes what is shown, but not the buffer. -/
theorem buffer_exact (n : Nat) (f : Option DeviceId) (x : Option Notifier)
    (ops : List Operation) :
    let l := (fresh n f x).performAll ops
    l.buffer = (acceptedSince .buffer f ops).reverse.take (max n 1) ∧
    (∀ now e, if Admits (filterAfter f ops) e then (l.ingest now e).accepted = true
      else l.ingest now e = ⟨l, false, none⟩) ∧
    l.events = l.buffer.filter (fun e => Admits (filterAfter f ops) e) ∧
    (∀ router, l.eventsFor router = l.buffer.filter fun e => e.router.text = router) ∧
    ∀ g, (l.setFilter g).buffer = l.buffer ∧
      (l.setFilter g).events = l.buffer.filter (fun e => Admits g e) ∧
      (l.setFilter none).events = l.buffer := by
  intro l
  have hf : l.filter = filterAfter f ops := filter_performAll ..
  refine ⟨buffer_performAll n f x ops, fun now e => ?_, ?_, fun router => ?_, fun g => ?_⟩
  · split_ifs with h
    · exact (ingest_of_admits now (hf ▸ h)).2.2.2.2
    · exact ingest_of_not_admits now (hf ▸ h)
  · rw [events_eq, hf]
  · simp only [eventsFor, beq_eq_decide]
  · refine ⟨rfl, events_eq _, ?_⟩
    rw [events_eq]
    simp [setFilter, Admits]

end LiveTelemetry.LinkLog
