import LiveTelemetry.Proofs.Channel.Course
import LiveTelemetry.Proofs.Channel.Superseded

/-!
What the user decides against a timer: a disconnection, or a call that begins an attempt for another
target. Main statement: the decision stands, in whichever order things happen later, exactly if no
call that the timer has made by then may still begin an attempt.
-/
namespace LiveTelemetry

/-- No attempt comes any more of the calls whose makers are in `T`. -/
structure Skeleton.Quelled (T : Option Timer → Prop) (a : Skeleton) : Prop where
  idle : ∀ k ∈ a.calls, T k.timer → a.shutDown = true ∨ k.mayBegin a.settings = false
  past : ∀ k ∈ a.calls, T k.timer → ∀ g, k.phase.generation? = some g → g < a.generation

namespace Skeleton.Quelled

variable {T : Option Timer → Prop} {a b : Skeleton}

lemma mono (h : a.Quelled T) (hc : b.calls = a.calls) (hset : b.settings = a.settings)
    (hs : a.shutDown = true → b.shutDown = true) (hg : a.generation ≤ b.generation) :
    b.Quelled T where
  idle k hk ht := by
    rw [hc] at hk
    rw [hset]
    exact (h.idle k hk ht).imp_left hs
  past k hk ht g hp := by
    rw [hc] at hk
    exact Nat.lt_of_lt_of_le (h.past k hk ht g hp) hg

lemma enter (h : a.Quelled T) (t : Target) {x : Option Timer} (hx : ¬T x) :
    Quelled T { a with calls := a.calls ++ [⟨t, .entered, x⟩] } where
  idle k hk ht := by
    obtain hk | hk := List.mem_append.1 hk
    · exact h.idle k hk ht
    · rw [List.mem_singleton.1 hk] at ht
      exact absurd ht hx
  past k hk ht g hp := by
    obtain hk | hk := List.mem_append.1 hk
    · exact h.past k hk ht g hp
    · rw [List.mem_singleton.1 hk] at ht
      exact absurd ht hx

lemma setPhase (h : a.Quelled T) {n : Nat} {k : Call} {p : Phase} (hk : a.calls[n]? = some k)
    (hb : T k.timer → Call.mayBegin a.settings { k with phase := p } = true →
      k.mayBegin a.settings = true)
    (hp : T k.timer → p.generation? = none) : (a.setPhase n p).Quelled T where
  idle k' hk' ht := by
    obtain rfl | ⟨m, -, hm⟩ := mem_setPhase hk hk'
    · refine (h.idle k (List.mem_of_getElem? hk) ht).imp_right fun hn => ?_
      rw [Bool.eq_false_iff] at hn ⊢
      exact fun hy => hn (hb ht hy)
    · exact h.idle k' (List.mem_of_getElem? hm) ht
  past k' hk' ht g hg := by
    obtain rfl | ⟨m, -, hm⟩ := mem_setPhase hk hk'
    · exact absurd ((hp ht).symm.trans hg) (by simp)
    · exact h.past k' (List.mem_of_getElem? hm) ht g hg

/-- What is quelled stays so, as long as the makers in `T` make no further call. -/
lemma move (m : a.Move b) (h : a.Quelled T) (hr : T none → b.calls.length = a.calls.length)
    (hw : ∀ t, a.generation = t.generation → a.reconnectAllowed = true → ¬T (some t)) :
    b.Quelled T := by
  cases m with
  | rest => exact h
  | ring | oversleep | tidy | leave | lose => exact h.mono rfl rfl id (Nat.le_refl _)
  | request t => exact h.enter t fun hn => by simpa using hr hn
  | wake ht hg _ ha => exact (h.enter _ (hw _ hg ha)).mono rfl rfl id (Nat.le_refl _)
  | advance hk _ hp _ hb => exact h.setPhase hk (fun _ => hb) fun _ => hp
  | claim hk hp _ =>
    have hset := h.setPhase (p := .claimed) hk (by simp [Call.mayBegin, hp]) fun _ => rfl
    exact hset.mono rfl rfl id (Nat.le_refl _)
  | @start n k u d hk hp hs =>
    -- Of the quelled calls none is prepared while the channel is not shut down.
    have hn : ¬T k.timer := by
      intro ht
      obtain hs' | hb := h.idle k (List.mem_of_getElem? hk) ht
      · exact absurd (hs.symm.trans hs') Bool.false_ne_true
      · simp [Call.mayBegin, hp] at hb
    have hset := h.setPhase (p := .opening (a.generation + 1) u d) hk
      (fun ht => absurd ht hn) (fun ht => absurd ht hn)
    exact hset.mono rfl rfl id (Nat.le_succ _)
  | opened hk _ _ | failed r hk _ | release hk _ =>
    exact (h.setPhase hk (by simp [Call.mayBegin]) fun _ => rfl).mono rfl rfl id (Nat.le_refl _)
  | disconnect => exact h.mono rfl rfl id (Nat.le_succ _)
  | shut | shutdown => exact h.mono rfl rfl (fun _ => rfl) (Nat.le_succ _)

end Skeleton.Quelled

/-- A channel is closed, and nothing is left that could open it. -/
structure Skeleton.Hushed (a : Skeleton) : Prop where
  quelled : a.Quelled fun _ => True
  reconnectAllowed : a.reconnectAllowed = false
  state : a.state = .disconnected

lemma Skeleton.Hushed.move {a b : Skeleton} (m : a.Move b) (h : a.Hushed)
    (hl : b.calls.length = a.calls.length) : b.Hushed := by
  have hq : b.Quelled fun _ => True :=
    h.quelled.move m (fun _ => hl) fun _ _ ha =>
      absurd (h.reconnectAllowed.symm.trans ha) Bool.false_ne_true
  cases m with
  | start d hk hp hs =>
    obtain hs' | hb := h.quelled.idle _ (List.mem_of_getElem? hk) trivial
    · exact absurd (hs.symm.trans hs') Bool.false_ne_true
    · simp [Call.mayBegin, hp] at hb
  | opened hk hp hs =>
    exact absurd (h.quelled.past _ (List.mem_of_getElem? hk) trivial _ hp) (Nat.lt_irrefl _)
  | failed => exact ⟨hq, h.reconnectAllowed, rfl⟩
  | disconnect | shutdown => exact ⟨hq, rfl, rfl⟩
  | shut => exact ⟨hq, rfl, h.state⟩
  | tidy | lose => exact ⟨hq, h.reconnectAllowed, rfl⟩
  | _ => exact ⟨hq, h.reconnectAllowed, h.state⟩

/-- Nothing that can be decided about a channel has changed: no attempt was begun, the channel was
not closed, and what was asked for last is the same. -/
structure Channel.Agrees (c c' : Channel) : Prop where
  attempts : c'.counters.attempts = c.counters.attempts
  state : c'.state = c.state
  target : c'.target = c.target
  generation : c'.generation = c.generation
  reader : c'.reader = c.reader
  timer : c'.timer = c.timer
  reconnectAllowed : c'.reconnectAllowed = c.reconnectAllowed

lemma Channel.agrees_refl (c : Channel) : c.Agrees c := ⟨rfl, rfl, rfl, rfl, rfl, rfl, rfl⟩

lemma Channel.agrees_proceed (now : Nat) (t : Target) {p : Phase} {c : Channel}
    (h : ∀ u, p = .prepared u → c.shutDown = true) : c.Agrees (c.proceed now t p).1 := by
  obtain ⟨a, e, hc⟩ := Channel.proceed_of_not_begins now t h
  rw [hc]
  exact ⟨rfl, rfl, rfl, rfl, rfl, rfl, rfl⟩

/-- A handshake of a past generation decides nothing. -/
lemma Channel.agrees_settle {g : Nat} (o : Outcome) {c : Channel} (h : g < c.generation) :
    c.Agrees (c.settle g o).1 := by
  have hne : c.generation ≠ g := Nat.ne_of_gt h
  cases o with
  | opened =>
    simp only [Channel.settle, Channel.isCurrent, beq_eq_false_iff_ne.2 hne, Bool.false_and,
      Bool.false_eq_true, if_false]
    exact c.agrees_refl
  | failed f =>
    simp only [Channel.settle, if_neg hne]
    exact ⟨rfl, rfl, rfl, rfl, rfl, rfl, rfl⟩

lemma Channel.agrees_abandon {g : Nat} {c : Channel} (h : g < c.generation) :
    c.Agrees (c.abandon g).1 := by
  have hne : c.generation ≠ g := Nat.ne_of_gt h
  simp only [Channel.abandon, Channel.isCurrent, beq_eq_false_iff_ne.2 hne, Bool.false_and,
    Bool.false_eq_true, if_false]
  exact c.agrees_refl

namespace System

/-- The timer that acts with an input, itself or by a call that it has made. -/
def actor? (s : System) : Input → Option Timer
  | .wake i => s.woken[i]?
  | .proceed n | .outcome n _ | .expire n | .abandon n => s.calls[n]?.bind Call.timer
  | _ => none

/-- An input is a decision against a timer: a disconnection, or the moment at which a caller's call
begins an attempt for another target. -/
def Overrules (s : System) : Input → Timer → Prop
  | .disconnect, _ => True
  | .proceed n, t => s.channel.shutDown = false ∧ ∃ k u, s.calls[n]? = some k ∧
      k.phase = .prepared u ∧ k.timer = none ∧ k.target ≠ t.target
  | _, _ => False

/-- Whatever happens later, the timer undoes nothing of what was decided by then. -/
def Stands (s : System) (i : Input) (t : Timer) : Prop :=
  ∀ later j, ((s.step i).run later).actor? j = some t →
    ((s.step i).run later).channel.Agrees (((s.step i).run later).step j).channel

/-- After a disconnection the channel stays closed until a caller makes a further call. -/
def StaysClosed (s : System) : Prop :=
  ∀ later, (∀ j ∈ later, j.isRequest = false) →
    ((s.step .disconnect).run later).channel.state = .disconnected

variable {s : System}

lemma agrees_conclude {n : Nat} (o : Outcome) (h : ∀ k, s.calls[n]? = some k →
    ∀ g, k.phase.generation? = some g → g < s.channel.generation) :
    s.channel.Agrees (s.conclude n o).channel := by
  unfold conclude
  split
  · next t g u d x hk => exact Channel.agrees_settle _ (h _ hk g rfl)
  · exact s.channel.agrees_refl

/-- A timer whose calls are quelled decides nothing. -/
lemma agrees_step {t : Timer} {j : Input} (h : s.skeleton.Quelled (· = some t))
    (hl : t.generation < s.channel.generation) (hj : s.actor? j = some t) :
    s.channel.Agrees (s.step j).channel := by
  have hcall : ∀ {n : Nat} {k : Call}, s.calls[n]?.bind Call.timer = some t →
      s.calls[n]? = some k → k ∈ s.skeleton.calls ∧ k.timer = some t := by
    intro n k ht hk
    rw [hk] at ht
    exact ⟨List.mem_of_getElem? hk, ht⟩
  have hpast : ∀ {n : Nat}, s.calls[n]?.bind Call.timer = some t → ∀ k, s.calls[n]? = some k →
      ∀ g, k.phase.generation? = some g → g < s.channel.generation := fun ht k hk =>
    h.past k (hcall ht hk).1 (hcall ht hk).2
  cases j with
  | wake i =>
    have hc : s.channel.isCurrent t.generation = false := not_isCurrent_of_past (.inl hl)
    simp only [step, wake, show s.woken[i]? = some t from hj, Channel.wake_of_not_isCurrent hc]
    exact s.channel.agrees_refl
  | proceed n =>
    obtain ⟨k, hk, -⟩ := Option.bind_eq_some_iff.1 hj
    obtain ⟨hmem, ht⟩ := hcall hj hk
    rw [proceed_eq hk]
    refine Channel.agrees_proceed _ _ fun u hp => (h.idle k hmem ht).resolve_right ?_
    simp [Call.mayBegin, hp]
  | outcome n o => exact agrees_conclude o (hpast hj)
  | expire n =>
    simp only [step, expire]
    split
    · split_ifs
      · exact agrees_conclude _ (hpast hj)
      · exact s.channel.agrees_refl
    · exact s.channel.agrees_refl
  | abandon n =>
    simp only [step, abandon]
    split
    · next t g u d x hk => exact Channel.agrees_abandon (hpast hj _ hk g rfl)
    · exact s.channel.agrees_refl
    · exact s.channel.agrees_refl
  | _ => cases hj

/-- A timer of a past generation makes no further call, so that its calls stay quelled. -/
lemma quelled_run {t : Timer} (h : s.skeleton.Quelled (· = some t))
    (hl : t.generation < s.channel.generation) (later : List Input) :
    (s.run later).skeleton.Quelled (· = some t) ∧
      t.generation < (s.run later).channel.generation := by
  refine skeleton_run s (P := fun a => a.Quelled (· = some t) ∧ t.generation < a.generation)
    ?_ later ⟨h, hl⟩
  rintro a b m ⟨ha, hla⟩
  refine ⟨ha.move m (fun hn => by cases hn) ?_, Nat.lt_of_lt_of_le hla m.generation_le⟩
  rintro u hu - ht
  obtain rfl := Option.some.inj ht
  exact absurd hu (Nat.ne_of_gt hla)

/-- What a decision against a timer changes, and what it leaves as it is. -/
structure Settled (s x : System) : Prop where
  generation : x.channel.generation = s.channel.generation + 1
  settings : x.channel.settings = s.channel.settings
  shutDown : x.channel.shutDown = s.channel.shutDown
  state : x.channel.state ≠ .connected

lemma settled_disconnect : Settled s (s.step .disconnect) :=
  ⟨rfl, rfl, rfl, by simp [step]⟩

lemma settled_of_overrules {i : Input} {t : Timer} (h : s.Overrules i t) :
    Settled s (s.step i) ∧ ∀ (n : Nat) (k : Call), k.timer = some t →
      (s.calls[n]? = some k ↔ (s.step i).calls[n]? = some k) := by
  cases i with
  | disconnect => exact ⟨settled_disconnect, fun _ _ _ => Iff.rfl⟩
  | proceed n =>
    obtain ⟨hs, k, u, hk, hp, hx, -⟩ := h
    have hset : Settled s (s.step (.proceed n)) := by
      rw [proceed_eq hk, hp]
      simp only [Channel.proceed, Channel.start, hs, Bool.false_eq_true, if_false]
      exact ⟨rfl, rfl, rfl, by simp [setPhase]⟩
    refine ⟨hset, fun m k' ht => ?_⟩
    by_cases hm : n = m
    · -- The call of the decision is a caller's, so it is none of the timer's.
      subst m
      rw [calls_proceed_self hk, hk]
      constructor <;> intro he <;> obtain rfl := Option.some.inj he <;>
        exact absurd (hx.symm.trans ht) (by simp)
    · rw [calls_proceed_ne hk hm]
  | _ => exact h.elim

/-- A call that may still begin an attempt can come to do so after a decision. -/
lemma begins_after {x : System} (hx : Settled s x) (h : x.skeleton.Coherent)
    (hs : s.channel.shutDown = false) {n : Nat} {k : Call} (hk : x.calls[n]? = some k)
    (hb : k.mayBegin s.channel.settings = true) :
    ∃ later u, (∀ j ∈ later, j.isRequest = false) ∧
      (x.run later).calls[n]? = some { k with phase := .prepared u } ∧
      (x.run later).channel.shutDown = false := by
  obtain ⟨later, hl, hready, u, hu⟩ := attainable_ready h (hx.shutDown.trans hs) hx.state hk
    (by rw [hx.settings]; exact hb)
  exact ⟨later, u, hl, hu, hready⟩

/-- A decision quells the calls that may begin no attempt any more. -/
lemma quelled_of_settled {T : Option Timer → Prop} {x : System} (h : s.skeleton.Coherent)
    (hx : Settled s x) (hcalls : ∀ k ∈ x.calls, T k.timer → k ∈ s.calls)
    (hidle : s.channel.shutDown = true ∨
      ∀ k ∈ s.calls, T k.timer → k.mayBegin s.channel.settings = false) :
    x.skeleton.Quelled T where
  idle k hk ht := by
    refine hidle.imp (fun hs => hx.shutDown.trans hs) fun hb => ?_
    rw [show x.skeleton.settings = s.channel.settings from hx.settings]
    exact hb k (hcalls k hk ht) ht
  past k hk ht g hg := by
    refine Nat.lt_of_le_of_lt (h.pending_le k (hcalls k hk ht) g hg) ?_
    rw [show x.skeleton.generation = s.channel.generation + 1 from hx.generation]
    exact Nat.lt_succ_self _

lemma stands_iff (h : s.skeleton.Coherent) {i : Input} {t : Timer} (ht : s.Knows t)
    (hi : s.Overrules i t) :
    s.Stands i t ↔ s.channel.shutDown = true ∨
      ∀ k ∈ s.calls, k.timer = some t → k.mayBegin s.channel.settings = false := by
  obtain ⟨hx, hcalls⟩ := settled_of_overrules hi
  constructor
  · intro hstands
    by_contra hn
    simp only [not_or, Bool.not_eq_true, not_forall, Bool.not_eq_false] at hn
    obtain ⟨hs, k, hmem, hkt, hb⟩ := hn
    obtain ⟨n, hn⟩ := List.mem_iff_getElem?.1 hmem
    obtain ⟨later, u, -, hk, hs'⟩ := begins_after hx (h.move (s.move_step i)) hs
      ((hcalls n k hkt).1 hn) hb
    have hagrees := hstands later (.proceed n) (by simp [actor?, hk, hkt])
    exact Nat.succ_ne_self _ ((generation_start hk rfl hs').symm.trans hagrees.generation)
  · intro hidle later j hj
    have hl : t.generation < (s.step i).channel.generation := by
      rw [hx.generation]
      exact Nat.lt_succ_of_le (h.timers_le t ht)
    have hq : (s.step i).skeleton.Quelled (· = some t) := by
      refine quelled_of_settled h hx (fun k hk hkt => ?_) hidle
      obtain ⟨n, hn⟩ := List.mem_iff_getElem?.1 hk
      exact List.mem_of_getElem? ((hcalls n k hkt).2 hn)
    obtain ⟨hq, hl⟩ := quelled_run hq hl later
    exact agrees_step hq hl hj

/-- Only callers, and timers that may still reconnect, make calls. -/
lemma length_step {i : Input} (hi : i.isRequest = false)
    (ha : s.channel.reconnectAllowed = false) : (s.step i).calls.length = s.calls.length := by
  cases i with
  | connect device vendor => cases hi
  | wake i =>
    simp only [step, wake]
    split
    · rfl
    · simp [Channel.wake, ha]
  | _ => exact length_step_of_ne (by simp) (by simp)

lemma hushed_run (h : s.skeleton.Hushed) {later : List Input}
    (hl : ∀ j ∈ later, j.isRequest = false) : (s.run later).skeleton.Hushed := by
  induction later generalizing s with
  | nil => exact h
  | cons i is ih =>
    have hlen : (s.step i).skeleton.calls.length = s.skeleton.calls.length :=
      length_step (hl i (by simp)) h.reconnectAllowed
    exact ih (h.move (s.move_step i) hlen) fun j hj => hl j (List.mem_cons_of_mem _ hj)

lemma state_start {n : Nat} {k : Call} {u : Url} (hk : s.calls[n]? = some k)
    (hp : k.phase = .prepared u) (hs : s.channel.shutDown = false) :
    (s.step (.proceed n)).channel.state = .connecting := by
  simp [proceed_eq hk, hp, Channel.proceed, Channel.start, hs, setPhase]

lemma staysClosed_iff (h : s.skeleton.Coherent) :
    s.StaysClosed ↔ s.channel.shutDown = true ∨
      ∀ k ∈ s.calls, k.mayBegin s.channel.settings = false := by
  constructor
  · intro hcl
    by_contra hn
    simp only [not_or, Bool.not_eq_true, not_forall, Bool.not_eq_false] at hn
    obtain ⟨hs, k, hmem, hb⟩ := hn
    obtain ⟨n, hn⟩ := List.mem_iff_getElem?.1 hmem
    obtain ⟨later, u, hl, hk, hs'⟩ := begins_after (x := s.step .disconnect) settled_disconnect
      (h.move (s.move_step _)) hs hn hb
    have hstate := hcl (later ++ [.proceed n]) (by
      intro j hj
      obtain hj | hj := List.mem_append.1 hj
      · exact hl j hj
      · rw [List.mem_singleton.1 hj]
        rfl)
    rw [run_append] at hstate
    exact absurd ((state_start hk rfl hs').symm.trans hstate) (by decide)
  · intro hidle later hl
    have hq : (s.step .disconnect).skeleton.Quelled fun _ => True :=
      quelled_of_settled h settled_disconnect (fun _ hk _ => hk)
        (hidle.imp_right fun hb k hk _ => hb k hk)
    exact (hushed_run ⟨hq, rfl, rfl⟩ hl).state

/-- In every run a decision against a timer stands exactly if no call of the timer may still begin
an attempt at that moment, and the channel stays closed after a disconnection exactly if no call at
all may. -/
theorem decision_stands_run (settings : ChannelSettings) (capacity : Nat)
    (credentials : CredentialSlot) (clock : Channel.Clock) (inputs : List Input) :
    let s := (new (.new settings capacity credentials) clock).run inputs
    (∀ i t, s.Knows t → s.Overrules i t →
      (s.Stands i t ↔ s.channel.shutDown = true ∨
        ∀ k ∈ s.calls, k.timer = some t → k.mayBegin settings = false)) ∧
    (s.StaysClosed ↔ s.channel.shutDown = true ∨ ∀ k ∈ s.calls, k.mayBegin settings = false) := by
  intro s
  have h : s.skeleton.Coherent := coherent_run ..
  have hset : s.channel.settings = settings :=
    skeleton_run (new (.new settings capacity credentials) clock)
      (P := fun a => a.settings = settings) (fun _ _ m ha => m.settings_eq.trans ha) inputs rfl
  rw [← hset]
  exact ⟨fun _ _ ht hi => stands_iff h ht hi, staysClosed_iff h⟩

/-- A channel was opened and lost. -/
def losing : List Input :=
  [.connect ⟨"r1"⟩ "", .proceed 0, .proceed 0, .proceed 0, .proceed 0, .outcome 0 .opened,
    .proceed 0, .ending 0 .closed]

/-- The timer that was set when the channel was lost. -/
def planned : Timer := ⟨1, 5000, ⟨⟨"r1"⟩, "generic"⟩⟩

/-- A disconnection that comes before the timer is due stands. -/
theorem decision_stands_losing :
    (resting.run losing).Knows planned ∧ (resting.run losing).Overrules .disconnect planned ∧
      (resting.run losing).Stands .disconnect planned ∧ (resting.run losing).StaysClosed := by
  have hk : (resting.run losing).Knows planned := .inl (by decide +kernel)
  have h := decision_stands_run {} 50 (.ofToken (some "t")) ⟨0, "now"⟩ losing
  refine ⟨hk, trivial, (h.1 .disconnect planned hk trivial).2 (.inr ?_), h.2.2 (.inr ?_)⟩
  · decide +kernel
  · decide +kernel

/-- The timer has looked at the channel, and its call has not begun. -/
def looked : List Input := losing ++ [.pass 5000, .wake 0]

/-- A caller's call is about to begin an attempt for another target meanwhile. -/
def contested : List Input :=
  looked ++ [.proceed 1, .connect ⟨"r2"⟩ "", .proceed 2, .proceed 2, .proceed 2]

/-- A timer that has looked at the channel undoes the decision: a disconnection that comes before
its call begins is followed by a further attempt, and a channel that the user has opened to another
target by then is closed again. -/
theorem timer_undoes_decisions :
    ((resting.run looked).Knows planned ∧ (resting.run looked).Overrules .disconnect planned ∧
      ¬(resting.run looked).Stands .disconnect planned ∧ ¬(resting.run looked).StaysClosed) ∧
    (resting.run contested).Knows planned ∧
      (resting.run contested).Overrules (.proceed 2) planned ∧
      ¬(resting.run contested).Stands (.proceed 2) planned := by
  refine ⟨⟨.inr (.inr ?_), trivial, fun h => ?_, fun h => ?_⟩, .inr (.inr ?_), ?_, fun h => ?_⟩
  · decide +kernel
  · have ha := (h [.proceed 1, .proceed 1, .proceed 1] (.proceed 1) (by decide +kernel)).attempts
    revert ha
    decide +kernel
  · have hs := h [.proceed 1, .proceed 1, .proceed 1, .proceed 1] (by decide)
    revert hs
    decide +kernel
  · decide +kernel
  · exact ⟨by decide +kernel, _, _, rfl, rfl, rfl, by decide +kernel⟩
  · have hr := (h [.outcome 2 .opened, .proceed 2, .proceed 1, .proceed 1] (.proceed 1)
      (by decide +kernel)).reader
    revert hr
    decide +kernel

end System
end LiveTelemetry
