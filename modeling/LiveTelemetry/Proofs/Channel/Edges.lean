import LiveTelemetry.Proofs.Channel.Course
import LiveTelemetry.Proofs.Channel.Superseded
import LiveTelemetry.Proofs.Channel.Uninterrupted

/-!
How the state of a channel changes. Main statement: in every run in which nothing comes between the
look of a call at the channel and the begin of its attempt, the state changes along the designed
edges only; so the channel never opens without an attempt, no attempt begins while another one
runs, and a channel that is shut down stays closed.
-/
namespace LiveTelemetry

/-- Whether an input lets a call take its next step. -/
def Input.proceeds : Input → Bool
  | .proceed _ => true
  | _ => false

/-- What happens without interruption: anything but a step of a call, or a call that goes on until
it waits for its handshake or is over. -/
inductive Stride where
  | input (i : Input) (h : i.proceeds = false)
  | carry (call : Nat)

def Stride.inputs : Stride → List Input
  | input i _ => [i]
  | carry n => System.settling n

/-- Whether a call in this phase has nothing behind it that belongs to the begin of its attempt. -/
def Phase.isPoised : Phase → Bool
  | entered | opening .. | settled _ | finished _ => true
  | checked | claimed | prepared _ => false

/-- As long as the generation of a timer that has made a call is in force, the channel is closed. -/
def Skeleton.AwaitsTimers (a : Skeleton) : Prop :=
  ∀ k ∈ a.calls, ∀ r, k.timer = some r → r.generation = a.generation → a.state = .disconnected

lemma Skeleton.AwaitsTimers.move {a b : Skeleton} (m : a.Move b) (hc : a.Coherent)
    (h : a.AwaitsTimers) : b.AwaitsTimers := by
  have hset : ∀ {n k p}, a.calls[n]? = some k → ∀ k' ∈ (a.setPhase n p).calls,
      ∃ j ∈ a.calls, j.timer = k'.timer := by
    intro n k p hk k' hk'
    obtain rfl | ⟨m, -, hm⟩ := mem_setPhase hk hk'
    · exact ⟨k, List.mem_of_getElem? hk, rfl⟩
    · exact ⟨k', List.mem_of_getElem? hm, rfl⟩
  have hle : ∀ k ∈ a.calls, ∀ r, k.timer = some r → r.generation ≠ a.generation + 1 :=
    fun k hk r hr => Nat.ne_of_lt (Nat.lt_succ_of_le (hc.timers_le r (.inr (.inr ⟨k, hk, hr⟩))))
  intro k' hk' r hr hg
  cases m with
  | request =>
    obtain hk' | hk' := List.mem_append.1 hk'
    · exact h k' hk' r hr hg
    · rw [List.mem_singleton.1 hk'] at hr
      cases hr
  | wake ht =>
    obtain hk' | hk' := List.mem_append.1 hk'
    · exact h k' hk' r hr hg
    · rw [List.mem_singleton.1 hk'] at hr
      obtain rfl := Option.some.inj hr
      obtain ⟨-, -, hs, -⟩ := hc.timer _ (hc.woken _ (List.mem_of_getElem? ht) hg)
      exact hs
  | advance hk | claim hk | release hk =>
    obtain ⟨j, hj, he⟩ := hset hk k' hk'
    exact h j hj r (he.trans hr) hg
  | start _ hk =>
    obtain ⟨j, hj, he⟩ := hset hk k' hk'
    exact absurd hg (hle j hj r (he.trans hr))
  | opened hk hp =>
    obtain ⟨j, hj, he⟩ := hset hk k' hk'
    obtain ⟨-, hs, -⟩ := hc.pending _ (List.mem_of_getElem? hk) hp
    cases hs.symm.trans (h j hj r (he.trans hr) hg)
  | shut => exact absurd hg (hle k' hk' r hr)
  | failed | disconnect | tidy | shutdown | lose => rfl
  | rest | ring | oversleep | leave => exact h k' hk' r hr hg

namespace System

def stride (s : System) (x : Stride) : System := s.run x.inputs

def strides (s : System) (xs : List Stride) : System := xs.foldl stride s

/-- A call for a target, which a caller or a timer has made, takes the right to attempt and begins
to wait for its handshake: the target has a device, and with the credential that is held an
address. -/
structure Begins (s : System) (n : Nat) (t : Target) (x : Option Timer) (y : System) : Prop where
  call : s.calls[n]? = some ⟨t, .entered, x⟩
  device : t.device.isBlank = false
  alive : s.channel.shutDown = false
  free : s.channel.attempting = false
  taken : y.channel.attempting = true
  address : ∃ k u, s.channel.credentials.held = some k ∧ t.address s.channel.settings k = .ok u ∧
    y.waitingFor? n = some u

/-- With an input the handshake of a call fails that must be over by `d`, or the call is given
up. -/
inductive Fails (s : System) (n d : Nat) : Input → Prop
  | refused (f : Failure) (hd : s.clock.now ≤ d) : Fails s n d (.outcome n (.failed f))
  | overdue (o : Outcome) (hd : d < s.clock.now) : Fails s n d (.outcome n o)
  | late (hd : d ≤ s.clock.now) : Fails s n d (.expire n)
  | abandoned : Fails s n d (.abandon n)

/-- With an input the channel is closed on behalf of its user. -/
inductive Closes (s : System) : Input → Prop
  | disconnect : Closes s .disconnect
  | shutdown (hs : s.channel.shutDown = false) : Closes s .shutdown
  | tidy (ht : s.tearing = true) : Closes s .tidy

/-- The designed changes of the state, from `s` to `y`, with what brings each of them about. -/
inductive Edge (s y : System) : Stride → ChannelState → ChannelState → Prop
  | begin {n t x} (h : s.Begins n t x y) : Edge s y (.carry n) .disconnected .connecting
  /-- A call for another target takes the place of the open channel: one of a caller, or one that a
  timer has made before the channel opened. -/
  | replace {n t x} (h : s.Begins n t x y) (ht : s.channel.target ≠ some t)
    (hx : ∀ r, x = some r → r.generation < s.channel.generation) :
    Edge s y (.carry n) .connected .connecting
  | opened {n t u d x} (hk : s.calls[n]? = some ⟨t, .opening s.channel.generation u d, x⟩)
    (hd : s.clock.now ≤ d) : Edge s y (.input (.outcome n .opened) rfl) .connecting .connected
  | failed {n t u d x i} (hk : s.calls[n]? = some ⟨t, .opening s.channel.generation u d, x⟩)
    (hf : s.Fails n d i) (hi : i.proceeds = false) :
    Edge s y (.input i hi) .connecting .disconnected
  /-- The channel ends under its reader. -/
  | lost {r e} (hr : s.readers[r]? = some s.channel.generation)
    (hg : s.channel.reader = some s.channel.generation) :
    Edge s y (.input (.ending r e) rfl) .connected .disconnected
  | closed {i p} (hc : s.Closes i) (hi : i.proceeds = false) (hp : p ≠ .disconnected) :
    Edge s y (.input i hi) p .disconnected

/-- All calls stand where nothing interrupts the begin of an attempt. -/
def Poised (s : System) : Prop := ∀ k ∈ s.calls, k.phase.isPoised = true

variable {s y : System} {n : Nat} {t : Target} {g : Nat} {u : Url} {d : Nat} {x : Option Timer}
  {i : Input}

@[simp] lemma stride_input (hi : i.proceeds = false) : s.stride (.input i hi) = s.step i := rfl

lemma waitingFor_eq_some_iff : s.waitingFor? n = some u ↔
    ∃ t g d x, s.calls[n]? = some ⟨t, .opening g u d, x⟩ := by
  constructor
  · intro h
    unfold waitingFor? at h
    split at h
    · next t g v d x hk =>
      obtain rfl := Option.some.inj h
      exact ⟨t, g, d, x, hk⟩
    · cases h
  · rintro ⟨t, g, d, x, hk⟩
    simp only [waitingFor?, hk]

lemma Poised.step (h : s.Poised) (hi : i.proceeds = false) : (s.step i).Poised := by
  intro k' hk'
  obtain ⟨n, hn⟩ := List.mem_iff_getElem?.1 hk'
  cases hk : s.calls[n]? with
  | none => obtain ⟨-, ⟨_, _, -, rfl⟩ | ⟨_, _, -, rfl⟩⟩ := new_of_step hn hk <;> rfl
  | some k =>
    obtain ⟨p, hp, turn⟩ := exists_turn_step hk i
    obtain rfl := Option.some.inj (hp.symm.trans hn)
    cases turn with
    | stay => exact h k (List.mem_of_getElem? hk)
    | proceed => cases hi
    | @conclude _ g _ _ o =>
      obtain ⟨b, hb⟩ := exists_settle g o s.channel
      simp only [hb]
      rfl
    | abandon =>
      simp only [Channel.abandon]
      split_ifs <;> rfl
    | giveUp => rfl

lemma waitingFor_of_step (hi : i.proceeds = false) (h : (s.step i).waitingFor? n = some u) :
    s.waitingFor? n = some u := by
  obtain ⟨t, g, d, x, hn⟩ := waitingFor_eq_some_iff.1 h
  cases hk : s.calls[n]? with
  | none => obtain ⟨-, ⟨_, _, -, hc⟩ | ⟨_, _, -, hc⟩⟩ := new_of_step hn hk <;> cases hc
  | some k =>
    obtain rfl | ⟨rfl, -⟩ := opening_of_step hn hk
    · exact waitingFor_eq_some_iff.2 ⟨t, g, d, x, hk⟩
    · cases hi

/-- Nothing begins, and the state stays as it is. -/
structure Idles (s y : System) : Prop where
  state : y.channel.state = s.channel.state
  waiting : ∀ m u, y.waitingFor? m = some u → s.waitingFor? m = some u
  poised : y.Poised

lemma poised_put (h : s.Poised) (n : Nat) {z : Channel × Phase} (hz : z.2.isPoised = true) :
    (s.put n z).Poised := by
  intro k hk
  obtain ⟨m, hm⟩ := List.mem_iff_getElem?.1 hk
  by_cases hmn : n = m
  · subst m
    obtain ⟨k', -, rfl⟩ : ∃ k', s.calls[n]? = some k' ∧ { k' with phase := z.2 } = k := by
      simpa [put, setPhase] using hm
    exact hz
  · rw [put, getElem?_setPhase_ne _ hmn] at hm
    exact h k (List.mem_of_getElem? hm)

lemma waitingFor_put_ne {m : Nat} (h : n ≠ m) (z : Channel × Phase) :
    (s.put n z).waitingFor? m = s.waitingFor? m := by
  simp only [waitingFor?, put, getElem?_setPhase_ne _ h]

lemma idles_put (h : s.Poised) {k : Call} (hk : s.calls[n]? = some k) {c : Channel} {p : Phase}
    (hc : c.state = s.channel.state) (hp : p = k.phase ∨ ∃ r, p = .finished r) :
    Idles s (s.put n (c, p)) where
  state := hc
  waiting m u hm := by
    by_cases hmn : n = m
    · subst m
      obtain ⟨t, g, d, x, hn⟩ := waitingFor_eq_some_iff.1 hm
      rw [put, getElem?_setPhase_self (s := { s with channel := c }) p hk] at hn
      obtain ⟨t', q, x'⟩ := k
      obtain ⟨rfl, rfl, rfl⟩ : t' = t ∧ p = .opening g u d ∧ x' = x := by simpa using hn
      obtain rfl | ⟨r, hr⟩ := hp
      · exact waitingFor_eq_some_iff.2 ⟨_, _, _, _, hk⟩
      · cases hr
    · rwa [waitingFor_put_ne hmn] at hm
  poised := poised_put h n (by
    obtain rfl | ⟨r, rfl⟩ := hp
    · exact h k (List.mem_of_getElem? hk)
    · rfl)

lemma stride_carry_of_accepts (hk : s.calls[n]? = some ⟨t, .entered, x⟩)
    (h : s.channel.Accepts t u) : s.stride (.carry n) =
      s.put n (s.channel.begin t, .opening (s.channel.generation + 1) u
        (s.clock.now + s.channel.settings.timeoutMilliseconds)) := by
  refine (run_proceed hk 5).trans ?_
  rw [Channel.carry_of_accepts h, Channel.start_of_accepts h]

/-- A call that goes on begins an attempt, or nothing of this kind comes of it. -/
lemma begins_or_idles (h : s.Poised) (n : Nat) :
    (∃ t u x, s.calls[n]? = some ⟨t, .entered, x⟩ ∧ s.channel.Accepts t u) ∨
      Idles s (s.stride (.carry n)) := by
  cases hk : s.calls[n]? with
  | none =>
    have hstay : s.stride (.carry n) = s := run_proceed_none hk 5
    rw [hstay]
    exact .inr ⟨rfl, fun _ _ hu => hu, h⟩
  | some k =>
    have hrun : s.stride (.carry n) =
        s.put n (Channel.carry s.clock.now k.target 5 (s.channel, k.phase)) := run_proceed hk 5
    rw [hrun]
    obtain ⟨t, p, x⟩ := k
    cases p with
    | entered =>
      by_cases hacc : ∃ u, s.channel.Accepts t u
      · obtain ⟨u, hacc⟩ := hacc
        exact .inl ⟨t, u, x, rfl, hacc⟩
      · obtain ⟨e, r, hc⟩ := Channel.carry_of_not_accepts s.clock.now (not_exists.1 hacc)
        rw [hc]
        exact .inr (idles_put h hk rfl (.inr ⟨r, rfl⟩))
    | opening | finished =>
      rw [Channel.carry_of_isResting rfl]
      exact .inr (idles_put h hk rfl (.inl rfl))
    | settled r =>
      rw [Channel.carry_settled]
      exact .inr (idles_put h hk rfl (.inr ⟨r, rfl⟩))
    | checked | claimed | prepared => exact absurd (h _ (List.mem_of_getElem? hk)) Bool.false_ne_true

lemma begins_of_accepts (hk : s.calls[n]? = some ⟨t, .entered, x⟩) (h : s.channel.Accepts t u) :
    s.Begins n t x (s.stride (.carry n)) := by
  obtain ⟨k, hheld, hu⟩ := h.address
  have hwait : (s.stride (.carry n)).calls[n]? =
      some ⟨t, .opening (s.channel.generation + 1) u
        (s.clock.now + s.channel.settings.timeoutMilliseconds), x⟩ := by
    rw [stride_carry_of_accepts hk h, put]
    exact getElem?_setPhase_self (s := { s with channel := s.channel.begin t }) _ hk
  exact {
    call := hk
    device := h.device
    alive := h.alive
    free := h.free
    taken := by
      rw [stride_carry_of_accepts hk h]
      rfl
    address := ⟨k, u, hheld, hu, waitingFor_eq_some_iff.2 ⟨_, _, _, _, hwait⟩⟩ }

lemma Poised.stride (h : s.Poised) (x : Stride) : (s.stride x).Poised := by
  cases x with
  | input i hi => exact h.step hi
  | carry n =>
    obtain ⟨t, u, x, hk, hacc⟩ | hidle := begins_or_idles h n
    · rw [stride_carry_of_accepts hk hacc]
      exact poised_put h n rfl
    · exact hidle.poised

/-- While a handshake of the generation in force is awaited its failure closes the channel; of
another generation it does nothing to the state. -/
lemma state_of_fails (h : s.skeleton.Coherent) (hk : s.calls[n]? = some ⟨t, .opening g u d, x⟩)
    (hf : s.Fails n d i) : (s.step i).channel.state =
      if s.channel.generation = g then .disconnected else s.channel.state := by
  have hconclude : ∀ o f, Channel.timely s.clock.now d o s.channel.settings = .failed f →
      (s.conclude n o).channel.state =
        if s.channel.generation = g then .disconnected else s.channel.state := by
    intro o f ho
    simp only [conclude, hk, ho]
    rfl
  cases hf with
  | refused f hd => exact hconclude _ f (Channel.timely_of_le hd)
  | overdue o hd => exact hconclude o _ (if_pos hd)
  | late hd =>
    simp only [step, expire, hk, hd, if_true]
    exact hconclude _ (Channel.expired s.channel.settings) (by simp [Channel.timely])
  | abandoned =>
    have hcur : s.channel.isCurrent g = true ↔ s.channel.generation = g := by
      rw [Channel.isCurrent_iff]
      refine ⟨And.left, fun hg => ⟨hg, ?_⟩⟩
      subst hg
      exact (h.pending _ (List.mem_of_getElem? hk) rfl).1
    simp only [step, abandon, hk, Channel.abandon, hcur]
    split_ifs <;> rfl

lemma state_of_opened (h : s.skeleton.Coherent) (hk : s.calls[n]? = some ⟨t, .opening g u d, x⟩)
    (hd : s.clock.now ≤ d) : (s.step (.outcome n .opened)).channel.state =
      if s.channel.generation = g then .connected else s.channel.state := by
  have hcur : s.channel.isCurrent g = true ↔ s.channel.generation = g := by
    rw [Channel.isCurrent_iff]
    refine ⟨And.left, fun hg => ⟨hg, ?_⟩⟩
    subst hg
    exact (h.pending _ (List.mem_of_getElem? hk) rfl).1
  simp only [step, conclude, hk, Channel.timely_of_le hd, Channel.settle, hcur]
  split_ifs <;> rfl

/-- While the handshake of the generation in force is awaited the channel is connecting. -/
lemma connecting_of_opening (h : s.skeleton.Coherent)
    (hk : s.calls[n]? = some ⟨t, .opening s.channel.generation u d, x⟩) :
    s.channel.state = .connecting :=
  (h.pending _ (List.mem_of_getElem? hk) rfl).2.1

lemma edge_of_fails (h : s.skeleton.Coherent) (hk : s.calls[n]? = some ⟨t, .opening g u d, x⟩)
    (hf : s.Fails n d i) (hi : i.proceeds = false)
    (hne : (s.step i).channel.state ≠ s.channel.state) :
    Edge s (s.step i) (.input i hi) s.channel.state (s.step i).channel.state := by
  have hstate := state_of_fails h hk hf
  split_ifs at hstate with hg
  · subst hg
    rw [hstate, connecting_of_opening h hk]
    exact .failed hk hf hi
  · exact absurd hstate hne

/-- No outcome changes the channel if nothing waits for one. -/
lemma channel_of_not_waiting (hw : s.waitingFor? n = none)
    (hi : (∃ o, i = .outcome n o) ∨ i = .expire n ∨ i = .abandon n) :
    (s.step i).channel = s.channel := by
  have hk : ∀ {t g u d x}, s.calls[n]? ≠ some ⟨t, .opening g u d, x⟩ := by
    intro t g u d x hk
    rw [waitingFor_eq_some_iff.2 ⟨t, g, d, x, hk⟩] at hw
    cases hw
  obtain ⟨o, rfl⟩ | rfl | rfl := hi
  · simp only [step, conclude]
  · simp only [step, expire]
  · simp only [step, abandon]
    split
    · next hk' => exact absurd hk' hk
    · rfl
    · rfl

/-- The end of a handshake changes the state only as the outcome of the generation in force. -/
lemma edge_outcome (h : s.skeleton.Coherent) (m : Nat) (o : Outcome)
    (hne : (s.step (.outcome m o)).channel.state ≠ s.channel.state) :
    Edge s (s.step (.outcome m o)) (.input (.outcome m o) rfl) s.channel.state
      (s.step (.outcome m o)).channel.state := by
  cases hw : s.waitingFor? m with
  | none => exact absurd (congrArg Channel.state (channel_of_not_waiting hw (.inl ⟨o, rfl⟩))) hne
  | some u =>
    obtain ⟨t, g, d, x, hk⟩ := waitingFor_eq_some_iff.1 hw
    obtain hd | hd := Nat.lt_or_ge d s.clock.now
    · exact edge_of_fails h hk (.overdue o hd) rfl hne
    cases o with
    | failed f => exact edge_of_fails h hk (.refused f hd) rfl hne
    | opened =>
      have hstate := state_of_opened h hk hd
      split_ifs at hstate with hg
      · subst hg
        rw [hstate, connecting_of_opening h hk]
        exact .opened hk hd
      · exact absurd hstate hne

lemma edge_ending (h : s.skeleton.Coherent) (r : Nat) (e : Ending)
    (hne : (s.step (.ending r e)).channel.state ≠ s.channel.state) :
    Edge s (s.step (.ending r e)) (.input (.ending r e) rfl) s.channel.state
      (s.step (.ending r e)).channel.state := by
  simp only [step, ending] at hne ⊢
  split at hne
  · exact absurd rfl hne
  · next g hr =>
    cases hc : s.channel.isCurrent g with
    | false =>
      rw [Channel.finish_of_not_isCurrent hc] at hne
      exact absurd rfl hne
    | true =>
      obtain ⟨rfl, -⟩ := Channel.isCurrent_iff.1 hc
      have hg : s.channel.reader = some s.channel.generation :=
        h.reader_current (List.mem_of_getElem? hr)
      obtain ⟨-, -, -, hconn, -⟩ := h.reader _ hg
      have hlost : (s.channel.finish s.clock.now s.channel.generation e).state = .disconnected :=
        congrArg Control.state (Channel.control_finish hc)
      simp only [hlost]
      rw [show s.channel.state = .connected from hconn]
      exact .lost hr hg

lemma edge_of_closes {i : Input} (hc : s.Closes i) (hi : i.proceeds = false)
    (hstate : (s.step i).channel.state = .disconnected)
    (hne : (s.step i).channel.state ≠ s.channel.state) :
    Edge s (s.step i) (.input i hi) s.channel.state (s.step i).channel.state := by
  rw [hstate] at hne ⊢
  exact .closed hc hi hne.symm

/-- An input that lets no call go on changes the state along a designed edge, if at all. -/
theorem edge_step (h : s.skeleton.Coherent) (i : Input) (hi : i.proceeds = false)
    (hne : (s.step i).channel.state ≠ s.channel.state) :
    Edge s (s.step i) (.input i hi) s.channel.state (s.step i).channel.state := by
  cases i with
  | proceed => cases hi
  | outcome m o => exact edge_outcome h m o hne
  | expire m =>
    cases hw : s.waitingFor? m with
    | none =>
      exact absurd (congrArg Channel.state (channel_of_not_waiting hw (.inr (.inl rfl)))) hne
    | some u =>
      obtain ⟨t, g, d, x, hk⟩ := waitingFor_eq_some_iff.1 hw
      by_cases hd : d ≤ s.clock.now
      · exact edge_of_fails h hk (.late hd) hi hne
      · have hstay : s.step (.expire m) = s := by simp only [step, expire, hk, hd, if_false]
        exact absurd (congrArg (·.channel.state) hstay) hne
  | abandon m =>
    cases hw : s.waitingFor? m with
    | none =>
      exact absurd (congrArg Channel.state (channel_of_not_waiting hw (.inr (.inr rfl)))) hne
    | some u =>
      obtain ⟨t, g, d, x, hk⟩ := waitingFor_eq_some_iff.1 hw
      exact edge_of_fails h hk .abandoned hi hne
  | disconnect => exact edge_of_closes .disconnect hi rfl hne
  | shutdown =>
    cases hs : s.channel.shutDown with
    | true => simp [step, Channel.shutdown, hs] at hne
    | false =>
      refine edge_of_closes (.shutdown hs) hi ?_ hne
      simp [step, Channel.shutdown, hs, Channel.tidy]
  | shut =>
    refine absurd ?_ hne
    simp only [step, shut, Channel.shut]
    split_ifs <;> rfl
  | tidy =>
    cases ht : s.tearing with
    | true =>
      refine edge_of_closes (.tidy ht) hi ?_ hne
      simp [step, tidy, ht, Channel.tidy]
    | false => simp [step, tidy, ht] at hne
  | frame r f =>
    refine absurd ?_ hne
    simp only [step, frame]
    split
    · rfl
    · exact congrArg Control.state (Channel.control_deliver ..)
  | ending r e => exact edge_ending h r e hne
  | stop r =>
    refine absurd ?_ hne
    simp only [step, stop]
    split
    · rfl
    · split_ifs <;> rfl
  | wake j =>
    refine absurd ?_ hne
    simp only [step, wake, Channel.wake]
    split
    · rfl
    · split_ifs <;> rfl
  | _ => exact absurd rfl hne

/-- While an attempt runs no call passes its checks. -/
lemma not_connecting_of_accepts (h : s.skeleton.Coherent) (hacc : s.channel.Accepts t u) :
    s.channel.state ≠ .connecting := by
  intro hs
  obtain ⟨k, hk, hg⟩ := h.connecting hacc.alive hs
  obtain ⟨m, hm⟩ := List.mem_iff_getElem?.1 hk
  have hbusy := h.attempting_of_holds hm (Skeleton.Coherent.holds_of_generation hg)
  exact absurd (hacc.free.symm.trans hbusy) Bool.false_ne_true

lemma state_of_accepts (hk : s.calls[n]? = some ⟨t, .entered, x⟩) (h : s.channel.Accepts t u) :
    (s.stride (.carry n)).channel.state = .connecting := by
  rw [stride_carry_of_accepts hk h]
  rfl

/-- The invariant of all strides. -/
structure Orderly (s : System) : Prop where
  coherent : s.skeleton.Coherent
  timers : s.skeleton.AwaitsTimers
  poised : s.Poised

lemma Orderly.stride (h : s.Orderly) (x : Stride) : (s.stride x).Orderly := by
  obtain ⟨hc, ht⟩ := s.skeleton_run (P := fun a => a.Coherent ∧ a.AwaitsTimers)
    (fun _ _ m h => ⟨h.1.move m, h.2.move m h.1⟩) x.inputs ⟨h.coherent, h.timers⟩
  exact ⟨hc, ht, h.poised.stride x⟩

lemma Orderly.strides (h : s.Orderly) (xs : List Stride) : (s.strides xs).Orderly := by
  induction xs generalizing s with
  | nil => exact h
  | cons x xs ih => exact ih (h.stride x)

lemma orderly_new (settings : ChannelSettings) (capacity : Nat) (credentials : CredentialSlot)
    (clock : Channel.Clock) : (new (.new settings capacity credentials) clock).Orderly where
  coherent := coherent_new ..
  timers _ hk := absurd hk List.not_mem_nil
  poised _ hk := absurd hk List.not_mem_nil

/-- The generation of a timer that has made a call is over once the channel is open. -/
lemma Orderly.lt_generation (h : s.Orderly) (hs : s.channel.state = .connected) {r : Timer}
    (hk : s.calls[n]? = some ⟨t, .entered, some r⟩) : r.generation < s.channel.generation := by
  have hmem := List.mem_of_getElem? hk
  refine Nat.lt_of_le_of_ne (h.coherent.timers_le r (.inr (.inr ⟨_, hmem, rfl⟩))) fun hg => ?_
  cases hs.symm.trans (h.timers _ hmem r rfl hg)

/-- The state changes along a designed edge, if at all. -/
theorem Orderly.edge_stride (h : s.Orderly) (x : Stride)
    (hne : (s.stride x).channel.state ≠ s.channel.state) :
    Edge s (s.stride x) x s.channel.state (s.stride x).channel.state := by
  cases x with
  | input i hi => exact edge_step h.coherent i hi hne
  | carry n =>
    obtain ⟨t, u, x, hk, hacc⟩ | hidle := begins_or_idles h.poised n
    · have hbegins := begins_of_accepts hk hacc
      rw [state_of_accepts hk hacc]
      cases hs : s.channel.state with
      | disconnected => exact .begin hbegins
      | connecting => exact absurd hs (not_connecting_of_accepts h.coherent hacc)
      | connected =>
        refine .replace hbegins (fun ht => hacc.other ⟨hs, ht⟩) fun r hr => ?_
        subst hr
        exact h.lt_generation hs hk
    · exact absurd hidle.state hne

/-- What should be an edge is one: the state is the other one afterwards. -/
theorem Orderly.state_of_edge (h : s.Orderly) {x : Stride} {p q : ChannelState}
    (he : Edge s (s.stride x) x p q) : (s.stride x).channel.state = q := by
  have hbegins : ∀ {n t x}, s.Begins n t x (s.stride (.carry n)) →
      (s.stride (.carry n)).channel.state = .connecting := by
    intro n t x hb
    obtain ⟨t, u, x, hk, hacc⟩ | hidle := begins_or_idles h.poised n
    · exact state_of_accepts hk hacc
    · obtain ⟨-, u, -, -, hwait⟩ := hb.address
      obtain ⟨_, _, _, _, hk⟩ := waitingFor_eq_some_iff.1 (hidle.waiting n u hwait)
      cases hb.call.symm.trans hk
  cases he with
  | begin hb => exact hbegins hb
  | replace hb => exact hbegins hb
  | opened hk hd => exact (state_of_opened h.coherent hk hd).trans (if_pos rfl)
  | failed hk hf => exact (state_of_fails h.coherent hk hf).trans (if_pos rfl)
  | @lost r e hr hg =>
    obtain ⟨-, -, hs, -⟩ := h.coherent.reader _ hg
    have hc : s.channel.isCurrent s.channel.generation = true := Channel.isCurrent_iff.2 ⟨rfl, hs⟩
    change (s.step (.ending r e)).channel.state = _
    simp only [step, ending, hr]
    exact congrArg Control.state (Channel.control_finish hc)
  | closed hc =>
    cases hc with
    | disconnect => rfl
    | shutdown hs => simp [step, Channel.shutdown, hs, Channel.tidy]
    | tidy ht => simp [step, tidy, ht, Channel.tidy]

/-- No call begins to wait while the channel is connecting. -/
lemma Orderly.waitingFor_of_connecting (h : s.Orderly) (hs : s.channel.state = .connecting)
    (x : Stride) {m : Nat} (hw : (s.stride x).waitingFor? m = some u) :
    s.waitingFor? m = some u := by
  cases x with
  | input i hi => exact waitingFor_of_step hi hw
  | carry n =>
    obtain ⟨t, u, x, -, hacc⟩ | hidle := begins_or_idles h.poised n
    · exact absurd hs (not_connecting_of_accepts h.coherent hacc)
    · exact hidle.waiting m u hw

lemma shutDown_stride (h : s.channel.shutDown = true) (x : Stride) :
    (s.stride x).channel.shutDown = true :=
  s.skeleton_run (P := fun a => a.shutDown = true) (fun _ _ m => m.shutDown_of) x.inputs h

/-- A channel that is shut down and closed stays closed. -/
lemma Orderly.disconnected_strides (h : s.Orderly) (hdown : s.channel.shutDown = true)
    (hs : s.channel.state = .disconnected) (xs : List Stride) :
    (s.strides xs).channel.state = .disconnected := by
  induction xs generalizing s with
  | nil => exact hs
  | cons x xs ih =>
    refine ih (h.stride x) (shutDown_stride hdown x) ?_
    by_contra hne
    have hedge := h.edge_stride x (by rwa [hs])
    rw [hs] at hedge
    generalize (s.stride x).channel.state = q at hedge
    -- Of the designed edges only the begin of an attempt leaves the closed state.
    cases hedge with
    | begin hb => exact absurd (hb.alive.symm.trans hdown) Bool.false_ne_true
    | closed _ _ hne' => exact hne' rfl

/-- All changes of the state that can follow are designed ones. -/
structure ByDesign (s : System) : Prop where
  edges : ∀ x, (s.stride x).channel.state ≠ s.channel.state →
    Edge s (s.stride x) x s.channel.state (s.stride x).channel.state
  taken : ∀ x p q, Edge s (s.stride x) x p q → (s.stride x).channel.state = q
  /-- The channel opens by an attempt only. -/
  attempted : s.channel.state = .disconnected → ∀ x, (s.stride x).channel.state ≠ .connected
  /-- While an attempt runs no other one begins. -/
  alone : s.channel.state = .connecting → ∀ x n u, (s.stride x).waitingFor? n = some u →
    s.waitingFor? n = some u
  forGood : s.channel.shutDown = true → s.channel.state = .disconnected →
    ∀ xs, (s.strides xs).channel.state = .disconnected

/-- Of a channel the state changes along the designed edges only, whatever happens to it. -/
theorem edges_strides (settings : ChannelSettings) (capacity : Nat)
    (credentials : CredentialSlot) (clock : Channel.Clock) (xs : List Stride) :
    ((new (.new settings capacity credentials) clock).strides xs).ByDesign := by
  have h := (orderly_new settings capacity credentials clock).strides xs
  exact {
    edges := h.edge_stride
    taken := fun _ _ _ => h.state_of_edge
    attempted := by
      intro hs x hconn
      have hedge := h.edge_stride x (by simp [hs, hconn])
      rw [hs, hconn] at hedge
      cases hedge
    alone := fun hs x n u => h.waitingFor_of_connecting hs x
    forGood := h.disconnected_strides }

end System
end LiveTelemetry
