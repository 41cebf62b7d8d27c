import LiveTelemetry.Proofs.Link.Fanout
import LiveTelemetry.Proofs.Link.Throttle
import LiveTelemetry.Proofs.Link.Totals

/-!
Whom a log notifies. Main statement: behind a throttle the sink is told of an event exactly if the
event is accepted and the sink was not told of the same transition of the same interface less than
a window before. Whoever is notified, and whatever comes of it, the log itself is the same.
-/
namespace LiveTelemetry.LinkLog

namespace Operation

/-- The event that an operation brings, with the reading of the clock. -/
def arrival? : Operation → Option (Nat × LinkEvent)
  | ingest now e => some (now, e)
  | _ => none

end Operation

/-- The events that come in some operations, accepted or not. -/
def arrivals (ops : List Operation) : List (Nat × LinkEvent) :=
  ops.filterMap Operation.arrival?

/-- The clock does not go back from one event to the next. -/
def InOrder (ops : List Operation) : Prop := (arrivals ops).Pairwise fun c d => c.1 ≤ d.1

/-- The events that are accepted. -/
def acceptances (f : Option DeviceId) (ops : List Operation) : List (Nat × LinkEvent) :=
  arrivals (admitted f ops)

/-- The events of which the sink is told in an operation. -/
def tells (l : LinkLog) : Operation → List (Nat × LinkEvent)
  | .ingest now e => if (l.ingest now e).notified.isSome then [(now, e)] else []
  | _ => []

/-- The events of which the sink is told in some operations. -/
def told (l : LinkLog) : List Operation → List (Nat × LinkEvent)
  | [] => []
  | op :: ops => l.tells op ++ told (l.perform op) ops

/-- A log with a throttle of `ms` milliseconds in front of a sink. -/
def throttled (n : Nat) (f : Option DeviceId) (ms : UInt64) (sink : Sink) : LinkLog :=
  fresh n f (some ⟨sink, some (.ofMilliseconds ms)⟩)

/-- No call that is less than a window old tells of the same as an event. -/
def Due (window : Nat) (calls : List (Nat × LinkEvent)) (now : Nat) (e : LinkEvent) : Prop :=
  ∀ c ∈ calls, c.2.Repeats e → c.1 + window ≤ now

instance (ops : List Operation) : Decidable (InOrder ops) :=
  inferInstanceAs (Decidable (List.Pairwise _ _))

instance (window : Nat) (calls : List (Nat × LinkEvent)) (now : Nat) (e : LinkEvent) :
    Decidable (Due window calls now e) :=
  inferInstanceAs (Decidable (∀ c ∈ calls, _))

/-! ### Events in order -/

variable {f : Option DeviceId} {ops : List Operation} {op : Operation} {now : Nat} {e : LinkEvent}

lemma arrivals_push (ops : List Operation) (op : Operation) :
    arrivals (ops ++ [op]) = arrivals ops ++ op.arrival?.toList := by
  cases h : op.arrival? <;> simp [arrivals, h]

lemma InOrder.of_push (h : InOrder (ops ++ [op])) : InOrder ops := by
  rw [InOrder, arrivals_push] at h
  exact (List.pairwise_append.1 h).1

lemma InOrder.le_of_push (h : InOrder (ops ++ [op])) {c d : Nat × LinkEvent}
    (hc : c ∈ arrivals ops) (hd : d ∈ op.arrival?) : c.1 ≤ d.1 := by
  rw [InOrder, arrivals_push] at h
  exact (List.pairwise_append.1 h).2.2 c hc d (Option.mem_toList.2 hd)

lemma acceptances_push (f : Option DeviceId) (ops : List Operation) (op : Operation) :
    acceptances f (ops ++ [op]) =
      acceptances f ops ++ op.arrival?.toList.filter fun c => Admits (filterAfter f ops) c.2 := by
  unfold acceptances
  rw [admitted_push]
  cases op with
  | ingest now e =>
    by_cases h : Admits (filterAfter f ops) e <;>
      simp [Operation.event?, Operation.arrival?, arrivals_push, h]
  | _ => simp [Operation.event?, Operation.arrival?, arrivals_push]

lemma acceptances_subset (f : Option DeviceId) (ops : List Operation) :
    acceptances f ops ⊆ arrivals ops := by
  induction ops using List.reverseRecOn with
  | nil => exact List.Subset.refl _
  | append_singleton ops op ih =>
    rw [acceptances_push, arrivals_push]
    apply List.append_subset.2
    constructor
    · exact fun c hc => List.mem_append_left _ (ih hc)
    · exact fun c hc => List.mem_append_right _ (List.mem_filter.1 hc).1

lemma told_push (l : LinkLog) (ops : List Operation) (op : Operation) :
    l.told (ops ++ [op]) = l.told ops ++ (l.performAll ops).tells op := by
  induction ops generalizing l with
  | nil => simp [told, performAll]
  | cons o ops ih => simp [told, performAll, ih]

/-! ### What the sink is told -/

variable {l : LinkLog} {n : Nat} {ms : UInt64} {sink : Sink} {t : Throttle}

/-- A log with a throttled sink asks the throttle when it accepts an event. -/
lemma ingest_of_throttle (h : Admits l.filter e) (hx : l.notifier = some ⟨sink, some t⟩)
    (now : Nat) :
    (l.ingest now e).log.notifier = some ⟨sink, some (t.ask now e.throttleKey).1⟩ ∧
      (l.ingest now e).notified =
        if (t.ask now e.throttleKey).2 then some (sink e) else none := by
  have hpasses : passes l.filter e = true := by rw [passes_eq, decide_eq_true h]
  simp [ingest, hpasses, hx, Notifier.notify]

lemma tells_of_not_admits (h : ¬Admits l.filter e) (now : Nat) :
    l.perform (.ingest now e) = l ∧ l.tells (.ingest now e) = [] := by
  rw [perform, tells, ingest_of_not_admits now h]
  exact ⟨rfl, rfl⟩

/-- Calls of a sink, as a throttle sees them. -/
def keysOf (calls : List (Nat × LinkEvent)) : List (Nat × String) :=
  calls.map fun c => (c.1, c.2.throttleKey)

lemma keysOf_tells (h : Admits l.filter e) (hx : l.notifier = some ⟨sink, some t⟩) (now : Nat)
    (calls : List (Nat × LinkEvent)) : keysOf (calls ++ l.tells (.ingest now e)) =
      Throttle.callsAfter (keysOf calls) now e.throttleKey (t.ask now e.throttleKey).2 := by
  rw [tells, (ingest_of_throttle h hx now).2]
  cases (t.ask now e.throttleKey).2 <;> simp [keysOf, Throttle.callsAfter]

/-- The throttle in a log recalls of what the sink was told. -/
lemma exists_throttle (n : Nat) (f : Option DeviceId) (ms : UInt64) (sink : Sink)
    (horder : InOrder ops) : ∃ t,
      ((throttled n f ms sink).performAll ops).notifier = some ⟨sink, some t⟩ ∧
      t.window = ms.toNat * 1000000 ∧
      ∀ now, (∀ c ∈ arrivals ops, c.1 ≤ now) →
        t.Recalls (keysOf ((throttled n f ms sink).told ops)) now := by
  induction ops using List.reverseRecOn with
  | nil => exact ⟨_, rfl, rfl, fun now _ => Throttle.recalls_ofMilliseconds ms now⟩
  | append_singleton ops op ih =>
    obtain ⟨t, hx, hwindow, hrecalls⟩ := ih horder.of_push
    have harrivals : arrivals ops ⊆ arrivals (ops ++ [op]) := by
      rw [arrivals_push]
      exact List.subset_append_left _ _
    rw [performAll_push, told_push]
    cases op with
    | ingest s e =>
      by_cases h : Admits ((throttled n f ms sink).performAll ops).filter e
      · refine ⟨_, (ingest_of_throttle h hx s).1, ?_, fun now hnow => ?_⟩
        · rw [Throttle.window_ask, hwindow]
        · have hs : s ≤ now := hnow (s, e) (by simp [arrivals_push, Operation.arrival?])
          have hrecall := hrecalls s fun c hc => horder.le_of_push hc rfl
          rw [keysOf_tells h hx, Throttle.ask_eq]
          exact (hrecall.askKeeping Throttle.suffices_ask _).mono hs
      · obtain ⟨hsame, hnone⟩ := tells_of_not_admits h s
        rw [hsame, hnone, List.append_nil]
        exact ⟨t, hx, hwindow, fun now hnow => hrecalls now fun c hc => hnow c (harrivals hc)⟩
    | setFilter | clearEvents | clearStatistics | clearAll =>
      simp only [tells, List.append_nil]
      exact ⟨t, hx, hwindow, fun now hnow => hrecalls now fun c hc => hnow c (harrivals hc)⟩

lemma holds_iff_not_due {calls : List (Nat × LinkEvent)} (h : t.Recalls (keysOf calls) now) :
    t.holds now e.throttleKey = true ↔ ¬Due t.window calls now e := by
  rw [h.holds_iff]
  unfold Due keysOf
  constructor
  · rintro ⟨k, hk, hkey, hlt⟩ hdue
    obtain ⟨c, hc, rfl⟩ := List.mem_map.1 hk
    exact Nat.not_le_of_lt hlt (hdue c hc (LinkEvent.throttleKey_inj.1 hkey))
  · intro hdue
    push Not at hdue
    obtain ⟨c, hc, hrepeats, hlt⟩ := hdue
    exact ⟨_, List.mem_map_of_mem hc, LinkEvent.throttleKey_inj.2 hrepeats, hlt⟩

/-- What becomes of an event behind a throttle. -/
lemma notified_throttled (n : Nat) (ms : UInt64) (sink : Sink)
    (horder : InOrder (ops ++ [.ingest now e])) :
    (((throttled n f ms sink).performAll ops).ingest now e).notified =
      if Admits (filterAfter f ops) e ∧
          Due (ms.toNat * 1000000) ((throttled n f ms sink).told ops) now e
      then some (sink e) else none := by
  have hf : ((throttled n f ms sink).performAll ops).filter = filterAfter f ops :=
    filter_performAll ..
  by_cases h : Admits (filterAfter f ops) e
  · obtain ⟨t, hx, hwindow, hrecalls⟩ := exists_throttle n f ms sink horder.of_push
    have hholds := holds_iff_not_due (e := e) (hrecalls now fun c hc => horder.le_of_push hc rfl)
    rw [(ingest_of_throttle (hf ▸ h) hx now).2, Throttle.ask_eq, Throttle.askKeeping_snd,
      ← hwindow]
    by_cases hdue : Due t.window ((throttled n f ms sink).told ops) now e <;>
      simp_all
  · rw [ingest_of_not_admits now (hf ▸ h), if_neg fun hand => h hand.1]

/-- Of one more event that is accepted the sink is told if it is due. -/
lemma told_throttled_push (n : Nat) (ms : UInt64) (sink : Sink) (horder : InOrder (ops ++ [op])) :
    (throttled n f ms sink).told (ops ++ [op]) = (throttled n f ms sink).told ops ++
      (op.arrival?.toList.filter fun c => Admits (filterAfter f ops) c.2).filter fun c =>
        Due (ms.toNat * 1000000) ((throttled n f ms sink).told ops) c.1 c.2 := by
  rw [told_push]
  cases op with
  | ingest now e =>
    rw [tells, notified_throttled n ms sink horder]
    by_cases h : Admits (filterAfter f ops) e <;>
      by_cases hdue : Due (ms.toNat * 1000000) ((throttled n f ms sink).told ops) now e <;>
      simp [Operation.arrival?, h, hdue]
  | _ => simp [Operation.arrival?, tells]

lemma told_subset (n : Nat) (f : Option DeviceId) (ms : UInt64) (sink : Sink)
    (horder : InOrder ops) : (throttled n f ms sink).told ops ⊆ acceptances f ops := by
  induction ops using List.reverseRecOn with
  | nil => exact List.Subset.refl _
  | append_singleton ops op ih =>
    rw [told_throttled_push n ms sink horder, acceptances_push]
    apply List.append_subset.2
    constructor
    · exact fun c hc => List.mem_append_left _ (ih horder.of_push hc)
    · exact fun c hc => List.mem_append_right _ (List.mem_filter.1 hc).1

/-- Of each transition of which an event was accepted the sink was told. -/
lemma exists_told (n : Nat) (f : Option DeviceId) (ms : UInt64) (sink : Sink)
    (horder : InOrder ops) {c : Nat × LinkEvent} (hc : c ∈ acceptances f ops) :
    ∃ d ∈ (throttled n f ms sink).told ops, d.2.Repeats c.2 := by
  induction ops using List.reverseRecOn with
  | nil => exact absurd hc List.not_mem_nil
  | append_singleton ops op ih =>
    rw [told_throttled_push n ms sink horder]
    rw [acceptances_push] at hc
    rcases List.mem_append.1 hc with hc | hc
    · obtain ⟨d, hd, hrepeats⟩ := ih horder.of_push hc
      exact ⟨d, List.mem_append_left _ hd, hrepeats⟩
    -- An event that is not due was held back for a call that tells of the same.
    · by_cases hdue : Due (ms.toNat * 1000000) ((throttled n f ms sink).told ops) c.1 c.2
      · exact ⟨c, List.mem_append_right _ (List.mem_filter.2 ⟨hc, decide_eq_true hdue⟩),
          rfl, rfl, rfl⟩
      · unfold Due at hdue
        push Not at hdue
        obtain ⟨d, hd, hrepeats, -⟩ := hdue
        exact ⟨d, List.mem_append_left _ hd, hrepeats⟩

/-- Without a window the sink is told of every event that is accepted. -/
lemma told_of_window_zero (n : Nat) (f : Option DeviceId) (sink : Sink) (horder : InOrder ops) :
    (throttled n f 0 sink).told ops = acceptances f ops := by
  induction ops using List.reverseRecOn with
  | nil => rfl
  | append_singleton ops op ih =>
    have hdue : ∀ c ∈ op.arrival?.toList, Due ((0 : UInt64).toNat * 1000000)
        ((throttled n f 0 sink).told ops) c.1 c.2 := fun c hc d hd _ =>
      horder.le_of_push (acceptances_subset f ops (told_subset n f 0 sink horder.of_push hd))
        (Option.mem_toList.1 hc)
    rw [told_throttled_push n 0 sink horder, acceptances_push, ← ih horder.of_push,
      List.filter_eq_self.2 fun c hc => decide_eq_true (hdue c (List.mem_filter.1 hc).1)]

/-- Within a window the first event of each transition is due. -/
lemma due_told_iff (n : Nat) (f : Option DeviceId) (ms : UInt64) (sink : Sink)
    (horder : InOrder ops)
    (hwindow : ∀ c ∈ acceptances f ops, c.2.Repeats e → now < c.1 + ms.toNat * 1000000) :
    Due (ms.toNat * 1000000) ((throttled n f ms sink).told ops) now e ↔
      ∀ c ∈ acceptances f ops, ¬c.2.Repeats e := by
  constructor
  · intro hdue c hc hrepeats
    obtain ⟨d, hd, h⟩ := exists_told n f ms sink horder hc
    have hrepeats := h.trans hrepeats
    exact Nat.not_le_of_lt (hwindow d (told_subset n f ms sink horder hd) hrepeats)
      (hdue d hd hrepeats)
  · intro h d hd hrepeats
    exact absurd hrepeats (h d (told_subset n f ms sink horder hd))

/-! ### The rest of the log -/

/-- What can happen to a log: an operation, or another notifier in place of the one it has. A
notifier that has a state of its own is one that is exchanged at any time. -/
inductive Step where
  | perform (op : Operation)
  | exchange (x : Option Notifier)

namespace Step

def operation? : Step → Option Operation
  | perform op => some op
  | exchange _ => none

def run (l : LinkLog) : Step → LinkLog
  | perform op => l.perform op
  | exchange x => { l with notifier := x }

end Step

def runAll (l : LinkLog) (steps : List Step) : LinkLog := steps.foldl Step.run l

lemma accepted_muted (l : LinkLog) (now : Nat) (e : LinkEvent) :
    (l.muted.ingest now e).accepted = (l.ingest now e).accepted := by
  have hfilter : l.muted.filter = l.filter := rfl
  unfold ingest
  rw [hfilter]
  split_ifs <;> rfl

lemma muted_runAll (l : LinkLog) (steps : List Step) :
    (l.runAll steps).muted = l.muted.performAll (steps.filterMap Step.operation?) := by
  induction steps generalizing l with
  | nil => rfl
  | cons s steps ih =>
    cases s with
    | perform op =>
      have hop : l.muted.perform op = (l.perform op).muted := by
        rw [muted_perform]
        cases op <;> rfl
      exact (ih _).trans (congrArg (performAll · _) hop.symm)
    | exchange x => exact ih _

/-- Behind a throttle the sink is told of an event exactly if the event is accepted and the sink was
not told less than a window before of the same transition of the same interface: within a window, of
the first event of each transition, and without a window of every event that is accepted. It makes
no difference that the throttle gives up entries, and it can always say when to. Whoever is
notified, and whatever comes of it, the rest of the log and the answers to events are those of a log
that notifies nobody. -/
theorem notification_exact (n : Nat) (f : Option DeviceId) (ms : UInt64) (sink : Sink)
    {ops : List Operation} {now : Nat} {e : LinkEvent}
    (horder : InOrder (ops ++ [.ingest now e])) :
    let l := throttled n f ms sink
    let window := ms.toNat * 1000000
    ((l.performAll ops).ingest now e).notified =
        (if Admits (filterAfter f ops) e ∧ Due window (l.told ops) now e then some (sink e)
          else none) ∧
      ((∀ c ∈ acceptances f ops, c.2.Repeats e → now < c.1 + window) →
        (Due window (l.told ops) now e ↔ ∀ c ∈ acceptances f ops, ¬c.2.Repeats e)) ∧
      (ms = 0 → l.told ops = acceptances f ops) ∧
      (∀ asks : List (Nat × String), asks.Pairwise (fun a b => a.1 ≤ b.1) →
        Throttle.answers Throttle.ask (.ofMilliseconds ms) asks =
          Throttle.answers (Throttle.askKeeping fun _ _ _ => true) (.ofMilliseconds ms) asks) ∧
      (∃ d, (Span.ofMilliseconds ms).times? 10 = some d ∧ d.total = window * 10) ∧
      ∀ (x : Option Notifier) (steps : List Step),
        let l := (fresh n f x).runAll steps
        let quiet := (fresh n f none).performAll (steps.filterMap Step.operation?)
        l.muted = quiet ∧ l.events = quiet.events ∧
          ∀ now e, (l.ingest now e).accepted = (quiet.ingest now e).accepted := by
  intro l window
  refine ⟨notified_throttled n ms sink horder, due_told_iff n f ms sink horder.of_push, ?_,
    fun asks hasks => Throttle.answers_ask ms hasks, Span.exists_times?_ofMilliseconds ms,
    fun x steps => ?_⟩
  · rintro rfl
    exact told_of_window_zero n f sink horder.of_push
  · intro l quiet
    have hmuted : l.muted = quiet := muted_runAll (fresh n f x) steps
    refine ⟨hmuted, ?_, fun now e => ?_⟩
    · rw [← hmuted]
      rfl
    · rw [← hmuted, accepted_muted]

/-- Names of devices look like keys, the filter changes, the log is cleared, and the throttle gives
up entries. -/
def recurrent : List Operation :=
  [.ingest 0 (change "r:1" 1 .up), .ingest 500000 (change "r" 11 .up),
    .ingest 999999 (change "r:1" 1 .up), .ingest 999999 (change "r:1" 1 .down),
    .setFilter (some ⟨"r"⟩), .ingest 1000000 (change "r:1" 1 .up), .setFilter none, .clearAll,
    .ingest 1000000 (change "r:1" 1 .up), .ingest 15000000 (change "r" 11 .up),
    .ingest 15000000 (change "r:1" 1 .up)]

theorem notification_recurrent :
    InOrder (recurrent ++ [.ingest 15999999 (change "r" 11 .up)]) ∧
    (throttled 1 none 1 .silent).told recurrent =
      [(0, change "r:1" 1 .up), (500000, change "r" 11 .up), (999999, change "r:1" 1 .down),
        (1000000, change "r:1" 1 .up), (15000000, change "r" 11 .up),
        (15000000, change "r:1" 1 .up)] ∧
    (((throttled 1 none 1 .silent).performAll recurrent).ingest 15999999
      (change "r" 11 .up)).notified = none :=
  have horder : InOrder (recurrent ++ [.ingest 15999999 (change "r" 11 .up)]) := by decide +kernel
  ⟨horder, by decide +kernel,
    (notification_exact 1 none 1 .silent horder).1.trans (if_neg (by decide +kernel))⟩

end LiveTelemetry.LinkLog
