import LiveTelemetry.Proofs.Channel.Coherence

/-!
What comes too late. Main statement: after a disconnection, a teardown or the begin of a newer
attempt, the readers that ran before change nothing any more, in whichever order things happen;
and a channel that is shut down is closed for good, whether or not its teardown is complete yet.
-/
namespace LiveTelemetry

/-- A generation is over: it is not in force, and will not be again. -/
def Skeleton.Past (g : Nat) (a : Skeleton) : Prop := g < a.generation ∨ a.shutDown = true

lemma Skeleton.Past.move {g : Nat} {a b : Skeleton} (m : a.Move b) (h : a.Past g) : b.Past g := by
  obtain h | h := h
  · exact .inl (Nat.lt_of_lt_of_le h m.generation_le)
  · exact .inr (m.shutDown_of h)

/-- A teardown that is complete leaves the channel closed. -/
def Skeleton.TornDown (a : Skeleton) : Prop :=
  a.shutDown = true → a.tearing = false → a.state = .disconnected

lemma Skeleton.TornDown.move {a b : Skeleton} (m : a.Move b) (h : a.TornDown) : b.TornDown := by
  intro hs ht
  cases m with
  | start _ _ _ hs' | opened _ _ hs' =>
    exact absurd (hs'.symm.trans hs) Bool.false_ne_true
  | shut => cases ht
  | failed | disconnect | tidy | shutdown | lose => rfl
  | _ => exact h hs ht

/-- Shut down since a time at which the state was `st` and a teardown was halfway or not. -/
structure Skeleton.ClosedSince (tearing : Bool) (st : ChannelState) (a : Skeleton) : Prop where
  shutDown : a.shutDown = true
  state : a.state = .disconnected ∨ a.tearing = true ∧ a.state = st
  tearing : tearing = false → a.tearing = false

lemma Skeleton.ClosedSince.refl {a : Skeleton} (hs : a.shutDown = true) (ht : a.TornDown) :
    a.ClosedSince a.tearing a.state where
  shutDown := hs
  state := by
    cases hx : a.tearing with
    | false => exact .inl (ht hs hx)
    | true => exact .inr ⟨rfl, rfl⟩
  tearing := id

lemma Skeleton.ClosedSince.move {tearing : Bool} {st : ChannelState} {a b : Skeleton}
    (m : a.Move b) (h : a.ClosedSince tearing st) : b.ClosedSince tearing st where
  shutDown := m.shutDown_of h.shutDown
  state := by
    cases m with
    | start _ _ _ hs | opened _ _ hs | shut hs =>
      exact absurd (hs.symm.trans h.shutDown) Bool.false_ne_true
    | failed | disconnect | tidy | shutdown | lose => exact .inl rfl
    | _ => exact h.state
  tearing ht := m.tearing_of h.shutDown (h.tearing ht)

/-- What a call that is made too late can come to. -/
def Phase.Refused (p : Phase) : Prop :=
  p = .entered ∨ p = .finished (some false) ∨ p = .finished none

namespace System

variable {s : System}

lemma not_isCurrent_of_past {g : Nat} (h : s.skeleton.Past g) : s.channel.isCurrent g = false := by
  rw [Bool.eq_false_iff]
  intro hc
  obtain ⟨hg, hs⟩ := Channel.isCurrent_iff.1 hc
  obtain h | h := h
  · exact absurd hg (Nat.ne_of_gt h)
  · exact absurd (hs.symm.trans h) Bool.false_ne_true

/-- Nothing that the reader of a past generation brings changes the channel. -/
lemma channel_frame_of_past {r g : Nat} (hr : s.readers[r]? = some g) (h : s.skeleton.Past g)
    (f : Frame) : (s.step (.frame r f)).channel = s.channel := by
  simp only [step, frame, hr]
  exact Channel.deliver_of_not_isCurrent (not_isCurrent_of_past h)

lemma channel_ending_of_past {r g : Nat} (hr : s.readers[r]? = some g) (h : s.skeleton.Past g)
    (e : Ending) : (s.step (.ending r e)).channel = s.channel := by
  simp only [step, ending, hr]
  exact Channel.finish_of_not_isCurrent (not_isCurrent_of_past h)

lemma channel_frame_of_shutDown (h : s.channel.shutDown = true) (r : Nat) (f : Frame) :
    (s.step (.frame r f)).channel = s.channel := by
  cases hr : s.readers[r]? with
  | none => simp [step, frame, hr]
  | some g => exact channel_frame_of_past hr (.inr h) f

lemma channel_ending_of_shutDown (h : s.channel.shutDown = true) (r : Nat) (e : Ending) :
    (s.step (.ending r e)).channel = s.channel := by
  cases hr : s.readers[r]? with
  | none => simp [step, ending, hr]
  | some g => exact channel_ending_of_past hr (.inr h) e

/-- An input is the moment of a disconnection, of a teardown, or of a call that begins an attempt
and so replaces the channel. -/
def Supersedes (s : System) : Input → Prop
  | .disconnect | .shutdown | .shut => True
  | .proceed n => s.channel.shutDown = false ∧ ∃ k u, s.calls[n]? = some k ∧ k.phase = .prepared u
  | _ => False

lemma generation_start {n : Nat} {k : Call} {u : Url} (hk : s.calls[n]? = some k)
    (hp : k.phase = .prepared u) (hs : s.channel.shutDown = false) :
    (s.step (.proceed n)).channel.generation = s.channel.generation + 1 := by
  simp [step, proceed, hk, hp, Channel.proceed, Channel.start, hs, setPhase, Channel.renew]

/-- All readers that run are of past generations then. -/
lemma past_of_supersedes (h : s.skeleton.Coherent) {i : Input} (hi : s.Supersedes i) {g : Nat}
    (hg : g ∈ s.readers) : (s.step i).skeleton.Past g := by
  have hle : g ≤ s.channel.generation := h.readers_le g hg
  cases i with
  | disconnect => exact .inl (Nat.lt_succ_of_le hle)
  | shutdown => exact .inr (Channel.shutDown_shutdown _)
  | shut => exact .inr (Channel.shutDown_shut _)
  | proceed n =>
    obtain ⟨hs, k, u, hk, hp⟩ := hi
    refine .inl ?_
    change g < (s.step (.proceed n)).channel.generation
    rw [generation_start hk hp hs]
    exact Nat.lt_succ_of_le hle
  | _ => exact hi.elim

lemma phase_check_of_shutDown (t : Target) {c : Channel} (h : c.shutDown = true) :
    (c.check t).2 = .finished (some false) := by
  unfold Channel.check
  split_ifs
  · rfl
  · rfl

lemma counters_proceed_of_shutDown (now : Nat) (t : Target) (p : Phase) {c : Channel}
    (h : c.shutDown = true) : (c.proceed now t p).1.counters = c.counters := by
  obtain ⟨a, e, hc⟩ := Channel.proceed_of_not_begins (p := p) now t fun _ _ => h
  rw [hc]

lemma counters_settle_of_shutDown (g : Nat) (o : Outcome) {c : Channel} (h : c.shutDown = true) :
    (c.settle g o).1.counters = c.counters := by
  cases o with
  | opened => simp [Channel.settle, Channel.isCurrent, h]
  | failed f => rfl

/-- A channel that is shut down counts nothing any more. -/
lemma counters_step_of_shutDown (h : s.channel.shutDown = true) (i : Input) :
    (s.step i).channel.counters = s.channel.counters := by
  have hconclude : ∀ n o, (s.conclude n o).channel.counters = s.channel.counters := by
    intro n o
    unfold conclude
    split
    · exact counters_settle_of_shutDown _ _ h
    · rfl
  cases i with
  | proceed n =>
    simp only [step, proceed]
    split
    · rfl
    · exact counters_proceed_of_shutDown _ _ _ h
  | outcome n o => exact hconclude n o
  | expire n =>
    simp only [step, expire]
    split
    · split_ifs
      · exact hconclude n _
      · rfl
    · rfl
  | abandon n =>
    simp only [step, abandon]
    split
    · simp [Channel.abandon, Channel.isCurrent, h, setPhase]
    · rfl
    · rfl
  | shutdown => simp [step, Channel.shutdown, h]
  | shut => simp [step, shut, Channel.shut, h]
  | tidy =>
    simp only [step, tidy]
    split_ifs <;> rfl
  | frame r f => rw [channel_frame_of_shutDown h]
  | ending r e => rw [channel_ending_of_shutDown h]
  | stop r =>
    simp only [step, stop]
    split
    · rfl
    · split_ifs <;> rfl
  | wake i =>
    simp only [step, wake]
    split
    · rfl
    · simp [Channel.wake, Channel.isCurrent, h]
  | _ => rfl

/-- All calls from a position on have come to nothing. -/
def RefusedFrom (m : Nat) (s : System) : Prop :=
  ∀ n k, m ≤ n → s.calls[n]? = some k → k.phase.Refused

lemma RefusedFrom.setPhase {m n : Nat} {p : Phase} (h : s.RefusedFrom m)
    (hp : m ≤ n → p.Refused) : (s.setPhase n p).RefusedFrom m := by
  intro i k hi hk
  by_cases hn : n = i
  · subst i
    obtain ⟨k', -, rfl⟩ : ∃ k', s.calls[n]? = some k' ∧ { k' with phase := p } = k := by
      simpa [System.setPhase] using hk
    exact hp hi
  · simp only [System.setPhase, List.getElem?_modify_ne _ _ hn] at hk
    exact h i k hi hk

lemma RefusedFrom.enter {m : Nat} (h : s.RefusedFrom m) (t : Target) (x : Option Timer) :
    (s.enter t x).RefusedFrom m := by
  intro i k hi hk
  simp only [System.enter, List.getElem?_append] at hk
  split_ifs at hk with hlt
  · exact h i k hi hk
  · obtain rfl : ⟨t, .entered, x⟩ = k := List.mem_singleton.1 (List.mem_of_getElem? hk) ▸ rfl
    exact .inl rfl

lemma refused_proceed_of_shutDown {now : Nat} {t : Target} {p : Phase} {c : Channel}
    (h : c.shutDown = true) (hp : p.Refused) : (c.proceed now t p).2.Refused := by
  obtain rfl | rfl | rfl := hp
  · exact .inr (.inl (phase_check_of_shutDown t h))
  · exact .inr (.inl rfl)
  · exact .inr (.inr rfl)

lemma RefusedFrom.conclude {m : Nat} (h : s.RefusedFrom m) (n : Nat) (o : Outcome) :
    (s.conclude n o).RefusedFrom m := by
  unfold System.conclude
  split
  · next t g u d x hk =>
    have hn : ¬ m ≤ n := fun hn => by
      have := h n _ hn hk
      simp [Phase.Refused] at this
    have hpos : ∀ c rs, RefusedFrom m { s with channel := c, readers := rs } := fun _ _ => h
    exact (hpos _ _).setPhase fun hmn => absurd hmn hn
  · exact h

lemma RefusedFrom.step {m : Nat} (h : s.RefusedFrom m) (hs : s.channel.shutDown = true)
    (i : Input) : (s.step i).RefusedFrom m := by
  have hkeep : ∀ c, RefusedFrom m { s with channel := c } := fun _ => h
  cases i with
  | connect device vendor => exact h.enter _ _
  | proceed n =>
    simp only [System.step, System.proceed]
    split
    · exact h
    · next k hk =>
      exact (hkeep _).setPhase fun hn => refused_proceed_of_shutDown hs (h n k hn hk)
  | outcome n o => exact h.conclude n o
  | expire n =>
    simp only [System.step, System.expire]
    split
    · split_ifs
      · exact h.conclude n _
      · exact h
    · exact h
  | abandon n =>
    simp only [System.step, System.abandon]
    split
    · next t g u d x hk =>
      refine (hkeep _).setPhase fun hn => ?_
      have := h n _ hn hk
      simp [Phase.Refused] at this
    · exact h.setPhase fun _ => .inr (.inr rfl)
    · exact h
  | tidy =>
    simp only [System.step, System.tidy]
    split_ifs <;> exact h
  | frame r f =>
    simp only [System.step, System.frame]
    split <;> exact h
  | ending r e =>
    simp only [System.step, System.ending]
    split <;> exact h
  | stop r =>
    simp only [System.step, System.stop]
    split
    · exact h
    · split_ifs <;> exact h
  | wake i =>
    simp only [System.step, System.wake]
    split
    · exact h
    · simp only [Channel.wake, Channel.isCurrent, hs, Bool.not_true, Bool.and_false,
        Bool.false_and, Bool.false_eq_true, if_false]
      exact h
  | _ => exact h

/-- What is left of a channel that was shut down in `s`. -/
structure Ended (s x : System) : Prop where
  shutDown : x.channel.shutDown = true
  /-- The state is what it was, at most until the teardown is complete. -/
  state : x.channel.state = .disconnected ∨ x.tearing = true ∧ x.channel.state = s.channel.state
  tearing : s.tearing = false → x.tearing = false
  counters : x.channel.counters = s.channel.counters
  /-- A call that is made now has not looked at the channel yet, was refused or was given up. -/
  refused : ∀ n k, s.calls.length ≤ n → x.calls[n]? = some k →
    k.phase.Refused ∧ (k.phase = .entered → (x.step (.proceed n)).result? n = some false)
  frame : ∀ r f, (x.step (.frame r f)).channel = x.channel
  ending : ∀ r e, (x.step (.ending r e)).channel = x.channel

lemma Ended.disconnected {x : System} (h : Ended s x) (ht : s.tearing = false) :
    x.channel.state = .disconnected := by
  obtain hx | ⟨hx, -⟩ := h.state
  · exact hx
  · exact absurd ((h.tearing ht).symm.trans hx) Bool.false_ne_true

lemma result_of_entered {n : Nat} {k : Call} (hs : s.channel.shutDown = true)
    (hk : s.calls[n]? = some k) (hp : k.phase = .entered) :
    (s.step (.proceed n)).result? n = some false := by
  have hc := phase_check_of_shutDown k.target hs
  simp [step, proceed, hk, hp, Channel.proceed, setPhase, result?, hc]

/-- What every step keeps of a channel that is shut down says that it has ended. -/
lemma ended_of_closedSince {x : System} (hs : x.skeleton.ClosedSince s.tearing s.channel.state)
    (hc : x.channel.counters = s.channel.counters) (hr : x.RefusedFrom s.calls.length) :
    Ended s x where
  shutDown := hs.shutDown
  state := hs.state
  tearing := hs.tearing
  counters := hc
  refused n k hn hk := ⟨hr n k hn hk, result_of_entered hs.shutDown hk⟩
  frame := channel_frame_of_shutDown hs.shutDown
  ending := channel_ending_of_shutDown hs.shutDown

/-- Being shut down is for good. -/
lemma ended_run (hs : s.channel.shutDown = true) (ht : s.skeleton.TornDown)
    (later : List Input) : Ended s (s.run later) := by
  have hinv : ∀ x : System, x.skeleton.ClosedSince s.tearing s.channel.state →
      x.channel.counters = s.channel.counters → x.RefusedFrom s.calls.length →
      Ended s (x.run later) := by
    induction later with
    | nil => exact fun x hx hc hr => ended_of_closedSince hx hc hr
    | cons i is ih =>
      intro x hx hc hr
      refine ih (x.step i) (hx.move (x.move_step i)) ?_ (hr.step hx.shutDown i)
      rw [counters_step_of_shutDown hx.shutDown, hc]
  refine hinv s (.refl hs ht) rfl ?_
  intro n k hle hk
  rw [List.getElem?_eq_none hle] at hk
  cases hk

/-- With an input a teardown is complete: all of it happens and no other one is halfway, or its
second half does. -/
def Completes (s : System) : Input → Prop
  | .shutdown => s.tearing = false
  | .tidy => s.channel.shutDown = true
  | _ => False

lemma Completes.shutDown {i : Input} (hi : s.Completes i) :
    (s.step i).channel.shutDown = true := by
  cases i with
  | shutdown => exact Channel.shutDown_shutdown _
  | tidy => exact (s.move_step .tidy).shutDown_of hi
  | _ => exact hi.elim

lemma Completes.tearing {i : Input} (hi : s.Completes i) : (s.step i).tearing = false := by
  cases i with
  | shutdown => exact hi
  | tidy =>
    simp only [step, tidy]
    split_ifs with ht
    · rfl
    · exact Bool.eq_false_iff.2 ht
  | _ => exact hi.elim

/-- Whatever readers bring after they were superseded is ignored. Once a teardown has begun,
nothing comes of a channel any more, and once it is complete the channel stays disconnected. -/
theorem superseded_run (settings : ChannelSettings) (capacity : Nat)
    (credentials : CredentialSlot) (clock : Channel.Clock) (inputs : List Input) :
    let s := (new (.new settings capacity credentials) clock).run inputs
    (∀ i, s.Supersedes i → ∀ later r g, ((s.step i).run later).readers[r]? = some g →
      g ∈ s.readers →
        (∀ f, (((s.step i).run later).step (.frame r f)).channel =
          ((s.step i).run later).channel) ∧
        (∀ e, (((s.step i).run later).step (.ending r e)).channel =
          ((s.step i).run later).channel)) ∧
    (∀ i, i = .shutdown ∨ i = .shut → (s.step i).channel.shutDown = true) ∧
    (s.channel.shutDown = true → ∀ later, Ended s (s.run later)) ∧
    (∀ i, s.Completes i → ∀ later, ((s.step i).run later).channel.state = .disconnected) := by
  intro s
  have htorn : s.skeleton.TornDown :=
    skeleton_run _ (fun _ _ m h => h.move m) inputs (by intro _ _; rfl)
  refine ⟨?_, ?_, fun hs later => ended_run hs htorn later, ?_⟩
  · intro i hi later r g hr hg
    have hpast : ((s.step i).run later).skeleton.Past g :=
      skeleton_run _ (fun _ _ m h => h.move m) later (past_of_supersedes (coherent_run ..) hi hg)
    exact ⟨channel_frame_of_past hr hpast, channel_ending_of_past hr hpast⟩
  · rintro i (rfl | rfl)
    · exact Channel.shutDown_shutdown _
    · exact Channel.shutDown_shut _
  · intro i hi later
    exact (ended_run hi.shutDown (htorn.move (s.move_step i)) later).disconnected hi.tearing

/-- A call has opened the channel, and its reader listens. -/
def listening : List Input :=
  [.connect ⟨"r1"⟩ "", .proceed 0, .proceed 0, .proceed 0, .proceed 0, .outcome 0 .opened]

/-- A disconnection silences the reader, and between the two halves of a teardown a further call
comes to nothing. -/
theorem superseded_listening :
    let s := resting.run listening
    let y := resting.run (listening ++ [.shut])
    s.readers = [1] ∧ s.Supersedes .disconnect ∧
    (∀ f, ((s.step .disconnect).step (.frame 0 f)).channel = (s.step .disconnect).channel) ∧
    (y.channel.shutDown = true ∧ y.tearing = true) ∧
    Ended y (y.run [.connect ⟨"r2"⟩ ""]) ∧
    ((y.run [.connect ⟨"r2"⟩ ""]).step (.proceed 1)).result? 1 = some false ∧
    y.Completes .tidy ∧ ∀ later, ((y.step .tidy).run later).channel.state = .disconnected := by
  intro s y
  obtain ⟨hsup, -⟩ := superseded_run {} 50 (.ofToken (some "t")) ⟨0, "now"⟩ listening
  obtain ⟨-, -, hended, hdone⟩ :=
    superseded_run {} 50 (.ofToken (some "t")) ⟨0, "now"⟩ (listening ++ [.shut])
  have hreaders : s.readers = [1] := by decide +kernel
  have hy : y.channel.shutDown = true ∧ y.tearing = true := by decide +kernel
  have hmem : 1 ∈ s.readers := by simp [hreaders]
  have hcall : Ended y (y.run [.connect ⟨"r2"⟩ ""]) := hended hy.1 _
  exact ⟨hreaders, trivial, (hsup .disconnect trivial [] 0 1 (by decide +kernel) hmem).1, hy,
    hcall, (hcall.refused 1 _ (by decide +kernel) rfl).2 rfl, hy.1, hdone .tidy hy.1⟩

/-- A teardown that finds another one halfway returns while the channel still counts as open. -/
theorem overlapping_teardown_connected :
    let y := resting.run (listening ++ [.shut])
    (y.step .shutdown).channel.shutDown = true ∧ (y.step .shutdown).channel.state = .connected ∧
      ((y.step .shutdown).step .tidy).channel.state = .disconnected := by
  decide +kernel

end System
end LiveTelemetry
