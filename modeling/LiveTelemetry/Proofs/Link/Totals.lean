import LiveTelemetry.Proofs.Link.Buffer
import LiveTelemetry.Proofs.Link.Key
import Mathlib.Algebra.Ring.Nat
import Mathlib.Data.List.Induction
import Mathlib.Tactic.Common

/-!
What the statistics of a log count. Main statement: they count, in all and for each interface apart,
exactly the events that were accepted since they were last cleared, whatever became of these events
in the buffer.
-/
namespace LiveTelemetry

namespace Table

variable {α : Type}

lemma lookup_eq_none_of_lt {key : String} {t : Table α} (h : ∀ k ∈ keys t, key < k) :
    lookup key t = none := by
  rw [← Option.not_isSome_iff_eq_none, lookup_isSome_iff]
  exact fun hk => absurd (h key hk) (String.lt_irrefl key)

/-- A new value counts in a sum in place of the one that its key had, if it had one. -/
lemma sum_put {t : Table α} (h : Sorted t) (w : α → Nat) {d : α} (hd : w d = 0) (key : String)
    (v : α) : ((put key v t).map fun x => w x.2).sum + w ((lookup key t).getD d) =
      (t.map fun x => w x.2).sum + w v := by
  induction t with
  | nil => simp [put, hd]
  | cons x t ih =>
    obtain ⟨k, u⟩ := x
    have hk : ∀ j ∈ keys t, k < j := (List.pairwise_cons.1 h).1
    unfold put
    split_ifs with hlt heq
    · have hnone : lookup key ((k, u) :: t) = none := by
        refine lookup_eq_none_of_lt fun j hj => ?_
        obtain rfl | hj := List.mem_cons.1 hj
        · exact hlt
        · exact String.lt_trans hlt (hk j hj)
      simp [hnone, hd]
      omega
    · simp [lookup, heq]
      omega
    · have := ih (List.pairwise_cons.1 h).2
      simp only [lookup, heq, if_false, List.map_cons, List.sum_cons]
      omega

end Table

def InterfaceCounts.of (t : Transition) (c : InterfaceCounts) : UInt64 :=
  match t with
  | .up => c.up
  | .down => c.down

lemma InterfaceCounts.of_count (t t' : Transition) (c : InterfaceCounts) :
    (c.count t').of t = c.of t + .ofNat (decide (t' = t)).toNat := by
  cases t <;> cases t' <;> simp [count, of]

namespace Statistics

def of (t : Transition) (s : Statistics) : UInt64 :=
  match t with
  | .up => s.up
  | .down => s.down

/-- Statistics of some events, and of nothing else. -/
def ofEvents (es : List LinkEvent) : Statistics := es.foldl (fun s e => s.record e) .empty

lemma ofEvents_push (es : List LinkEvent) (e : LinkEvent) :
    ofEvents (es ++ [e]) = (ofEvents es).record e := by
  simp [ofEvents]

lemma of_record (t : Transition) (e : LinkEvent) (s : Statistics) :
    (s.record e).of t = s.of t + .ofNat (decide (e.transition = t)).toNat := by
  cases t <;> cases h : e.transition <;> simp [of, record, h]

lemma countP_push {α : Type} (p : α → Bool) (es : List α) (e : α) :
    (es ++ [e]).countP p = es.countP p + (p e).toNat := by
  cases h : p e <;> simp [List.countP_append, h]

lemma total_ofEvents (es : List LinkEvent) : (ofEvents es).total = .ofNat es.length := by
  induction es using List.reverseRecOn with
  | nil => rfl
  | append_singleton es e ih =>
    rw [ofEvents_push, List.length_append, List.length_singleton, UInt64.ofNat_add, ← ih]
    rfl

lemma of_ofEvents (t : Transition) (es : List LinkEvent) :
    (ofEvents es).of t = .ofNat (es.countP fun e => e.transition = t) := by
  induction es using List.reverseRecOn with
  | nil => cases t <;> rfl
  | append_singleton es e ih =>
    rw [ofEvents_push, of_record, countP_push, UInt64.ofNat_add, ih]

lemma last_ofEvents (es : List LinkEvent) : (ofEvents es).last = es.getLast? := by
  induction es using List.reverseRecOn with
  | nil => rfl
  | append_singleton es e ih =>
    rw [ofEvents_push, List.getLast?_concat]
    rfl

lemma countsOf_ofEvents (key : String) (t : Transition) (es : List LinkEvent) :
    ((ofEvents es).countsOf key).of t =
      .ofNat (es.countP fun e => e.interfaceKey = key ∧ e.transition = t) := by
  induction es using List.reverseRecOn with
  | nil => cases t <;> rfl
  | append_singleton es e ih =>
    rw [ofEvents_push, countsOf_record, countP_push, UInt64.ofNat_add, ← ih]
    by_cases h : key = e.interfaceKey
    · simp [h, InterfaceCounts.of_count]
    · simp [h, Ne.symm h]

lemma sorted_ofEvents (es : List LinkEvent) : Table.Sorted (ofEvents es).perInterface := by
  induction es using List.reverseRecOn with
  | nil => exact List.Pairwise.nil
  | append_singleton es e ih =>
    rw [ofEvents_push]
    exact ih.put _ _

lemma toNat_ofNat_of_le {m n : Nat} (h : m ≤ n) (hn : n < 2 ^ 64) : (UInt64.ofNat m).toNat = m :=
  UInt64.toNat_ofNat_of_lt' (Nat.lt_of_le_of_lt h hn)

/-- What the interfaces count adds up to what is counted in all. -/
lemma sum_ofEvents (t : Transition) {es : List LinkEvent} (h : es.length < 2 ^ 64) :
    ((ofEvents es).perInterface.map fun x => (x.2.of t).toNat).sum =
      es.countP fun e => e.transition = t := by
  induction es using List.reverseRecOn with
  | nil => rfl
  | append_singleton es e ih =>
    rw [List.length_append, List.length_singleton] at h
    have hput := Table.sum_put (sorted_ofEvents es) (fun c => (c.of t).toNat) (d := .zero)
      (by cases t <;> rfl) e.interfaceKey
      (((ofEvents es).countsOf e.interfaceKey).count e.transition)
    -- No counter of an interface is at its end, as there are not that many events.
    have hnew : ((((ofEvents es).countsOf e.interfaceKey).count e.transition).of t).toNat =
        (((ofEvents es).countsOf e.interfaceKey).of t).toNat +
          (decide (e.transition = t)).toNat := by
      rw [InterfaceCounts.of_count, countsOf_ofEvents, ← UInt64.ofNat_add]
      have hle := List.countP_le_length (l := es)
        (p := fun x => x.interfaceKey = e.interfaceKey ∧ x.transition = t)
      have hone : (decide (e.transition = t)).toNat ≤ 1 := Bool.toNat_le _
      rw [toNat_ofNat_of_le (Nat.add_le_add hle hone) h,
        toNat_ofNat_of_le hle (Nat.lt_of_succ_lt h)]
    rw [hnew, ih (Nat.lt_of_succ_lt h)] at hput
    rw [ofEvents_push, countP_push]
    simp only [record, countsOf] at hput ⊢
    omega

/-- Statistics count exactly some events. -/
structure Counts (s : Statistics) (es : List LinkEvent) : Prop where
  total : s.total.toNat = es.length
  up : s.up.toNat = es.countP fun e => e.transition = .up
  down : s.down.toNat = es.countP fun e => e.transition = .down
  interface : ∀ router index,
    (s.interface router index).up.toNat = es.countP (fun e =>
      e.router.text = router ∧ e.interfaceIndex = index ∧ e.transition = .up) ∧
    (s.interface router index).down.toNat = es.countP fun e =>
      e.router.text = router ∧ e.interfaceIndex = index ∧ e.transition = .down
  last : s.last = es.getLast?
  both : s.total.toNat = s.up.toNat + s.down.toNat
  sums : (s.perInterface.map fun x => x.2.up.toNat).sum = s.up.toNat ∧
    (s.perInterface.map fun x => x.2.down.toNat).sum = s.down.toNat

lemma length_eq_countP_add (es : List LinkEvent) : es.length =
    es.countP (fun e => e.transition = .up) + es.countP fun e => e.transition = .down := by
  rw [List.length_eq_countP_add_countP fun e : LinkEvent => decide (e.transition = .up)]
  congr 2
  funext e
  cases e.transition <;> rfl

lemma toNat_interface {es : List LinkEvent} (h : es.length < 2 ^ 64) (router : String)
    (index : UInt32) (t : Transition) :
    (((ofEvents es).interface router index).of t).toNat = es.countP fun e =>
      e.router.text = router ∧ e.interfaceIndex = index ∧ e.transition = t := by
  rw [interface, countsOf_ofEvents, toNat_ofNat_of_le List.countP_le_length h]
  simp only [LinkEvent.interfaceKey_eq_keyOf_iff, and_assoc]

lemma counts_ofEvents {es : List LinkEvent} (h : es.length < 2 ^ 64) :
    (ofEvents es).Counts es := by
  have htotal : (ofEvents es).total.toNat = es.length := by
    rw [total_ofEvents, toNat_ofNat_of_le (Nat.le_refl _) h]
  have hof : ∀ t, ((ofEvents es).of t).toNat = es.countP fun e => e.transition = t := fun t => by
    rw [of_ofEvents, toNat_ofNat_of_le List.countP_le_length h]
  exact {
    total := htotal
    up := hof .up
    down := hof .down
    interface := fun router index =>
      ⟨toNat_interface h router index .up, toNat_interface h router index .down⟩
    last := last_ofEvents es
    both := htotal.trans ((length_eq_countP_add es).trans
      (congrArg₂ (· + ·) (hof .up).symm (hof .down).symm))
    sums := ⟨(sum_ofEvents .up h).trans (hof .up).symm,
      (sum_ofEvents .down h).trans (hof .down).symm⟩ }

end Statistics

namespace LinkLog

theorem statistics_performAll (n : Nat) (f : Option DeviceId) (x : Option Notifier)
    (ops : List Operation) : ((fresh n f x).performAll ops).statistics =
      .ofEvents (acceptedSince .statistics f ops) := by
  induction ops using List.reverseRecOn with
  | nil => rfl
  | append_singleton ops op ih =>
    have hf : ((fresh n f x).performAll ops).filter = filterAfter f ops := filter_performAll ..
    rw [performAll_push, acceptedSince_push]
    cases op with
    | ingest now e =>
      by_cases h : Admits (filterAfter f ops) e
      · rw [perform, (ingest_of_admits now (hf ▸ h)).2.1, ih, ← Statistics.ofEvents_push]
        simp [Operation.clears, Operation.event?, h]
      · rw [perform, ingest_of_not_admits now (hf ▸ h), ih]
        simp [Operation.clears, Operation.event?, h]
    | setFilter | clearEvents =>
      simpa [Operation.clears, Operation.event?, perform, setFilter, LinkLog.clearEvents] using ih
    | clearStatistics | clearAll => rfl

/-- Statistics count exactly the events that were accepted since they were cleared. Events that are
not accepted do not change them, nor does it when the buffer is cleared or is too small. -/
theorem statistics_exact (n : Nat) (f : Option DeviceId) (x : Option Notifier)
    (ops : List Operation) (h : (acceptedSince .statistics f ops).length < 2 ^ 64) :
    let l := (fresh n f x).performAll ops
    l.statistics.Counts (acceptedSince .statistics f ops) ∧
    (∀ now e, ¬Admits (filterAfter f ops) e →
      (l.ingest now e).log.statistics = l.statistics) ∧
    l.clearEvents.statistics = l.statistics ∧
    ∀ m y, ((fresh m f y).performAll ops).statistics = l.statistics := by
  intro l
  have hl : l.statistics = .ofEvents (acceptedSince .statistics f ops) :=
    statistics_performAll n f x ops
  refine ⟨hl ▸ Statistics.counts_ofEvents h, fun now e he => ?_, rfl, fun m y => ?_⟩
  · have hf : l.filter = filterAfter f ops := filter_performAll ..
    rw [ingest_of_not_admits now (hf ▸ he)]
  · rw [statistics_performAll, hl]

def change (router : String) (index : UInt32) (t : Transition) : LinkEvent :=
  ⟨⟨router⟩, "", "", index, "", t, 0, 0, "", ""⟩

/-- Names of devices look like keys, the filter changes, and the buffer is cleared. -/
def contested : List Operation :=
  [.ingest 0 (change "r" 11 .up), .clearStatistics, .ingest 0 (change "r:1" 1 .up),
    .ingest 0 (change "r" 11 .down), .setFilter (some ⟨"r"⟩), .ingest 0 (change "r:1" 1 .down),
    .clearEvents, .ingest 0 (change "r" 1 .up)]

theorem statistics_contested :
    (acceptedSince .statistics none contested).length < 2 ^ 64 ∧
    acceptedSince .statistics none contested =
      [change "r:1" 1 .up, change "r" 11 .down, change "r" 1 .up] ∧
    ((fresh 1 none none).performAll contested).statistics.Counts
      (acceptedSince .statistics none contested) ∧
    ((fresh 1 none none).performAll contested).buffer = [change "r" 1 .up] :=
  ⟨by decide +kernel, by decide +kernel,
    (statistics_exact 1 none none contested (by decide +kernel)).1, by decide +kernel⟩

end LinkLog
end LiveTelemetry
