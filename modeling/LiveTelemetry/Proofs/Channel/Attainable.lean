import LiveTelemetry.Proofs.Channel.Coherence

/-!
What can still come about in a system without a further call of a caller. Main statement: every call
that may still begin an attempt can be brought to the point at which it does, unless the channel is
open or shut down.
-/
namespace LiveTelemetry

/-- Whether a caller makes a call. -/
def Input.isRequest : Input → Bool
  | .connect .. => true
  | _ => false

lemma Channel.shutDown_proceed (now : Nat) (t : Target) (p : Phase) (c : Channel) :
    (c.proceed now t p).1.shutDown = c.shutDown := by
  by_cases hp : ∃ u, p = .prepared u
  · obtain ⟨u, rfl⟩ := hp
    simp only [Channel.proceed, Channel.start]
    split_ifs <;> rfl
  · obtain ⟨a, e, hc⟩ := Channel.proceed_of_not_begins now t (c := c)
      fun u hu => absurd ⟨u, hu⟩ hp
    rw [hc]

lemma Channel.shutDown_settle (g : Nat) (o : Outcome) (c : Channel) :
    (c.settle g o).1.shutDown = c.shutDown := by
  cases o with
  | opened =>
    simp only [Channel.settle]
    split_ifs <;> rfl
  | failed f => rfl

/-- Where addresses can be made, they can be made of every target with every credential. -/
lemma ChannelSettings.hasAddress_iff {s : ChannelSettings} (t : Target) (k : Credential) :
    s.hasAddress = true ↔ ∃ u, t.address s k = .ok u := by
  constructor
  · intro h
    unfold Target.address
    cases hu : Url.parse s.url with
    | error f => simp [ChannelSettings.hasAddress, hu, Except.isOk, Except.toBool] at h
    | ok u => exact ⟨_, rfl⟩
  · rintro ⟨u, hu⟩
    exact Channel.address_eq_ok hu

namespace System

variable {P Q : System → Prop} {s : System}

lemma getElem?_setPhase_self {n : Nat} {k : Call} (p : Phase) (hk : s.calls[n]? = some k) :
    (s.setPhase n p).calls[n]? = some { k with phase := p } := by
  simp [setPhase, hk]

lemma getElem?_setPhase_ne {m n : Nat} (p : Phase) (h : m ≠ n) :
    (s.setPhase m p).calls[n]? = s.calls[n]? :=
  List.getElem?_modify_ne _ _ h

lemma proceed_eq {n : Nat} {k : Call} (hk : s.calls[n]? = some k) :
    s.step (.proceed n) =
      setPhase n (s.channel.proceed s.clock.now k.target k.phase).2
        { s with channel := (s.channel.proceed s.clock.now k.target k.phase).1 } := by
  simp only [step, proceed, hk]

lemma calls_proceed_self {n : Nat} {k : Call} (hk : s.calls[n]? = some k) :
    (s.step (.proceed n)).calls[n]? =
      some { k with phase := (s.channel.proceed s.clock.now k.target k.phase).2 } := by
  rw [proceed_eq hk]
  exact getElem?_setPhase_self _ hk

lemma calls_proceed_ne {m n : Nat} {k : Call} (hk : s.calls[m]? = some k) (h : m ≠ n) :
    (s.step (.proceed m)).calls[n]? = s.calls[n]? := by
  rw [proceed_eq hk]
  exact getElem?_setPhase_ne _ h

/-- Something can come about without a further call of a caller. -/
def Attainable (P : System → Prop) (s : System) : Prop :=
  ∃ later, (∀ j ∈ later, j.isRequest = false) ∧ P (s.run later)

lemma Attainable.here (h : P s) : s.Attainable P := ⟨[], by simp, h⟩

lemma Attainable.step (i : Input) (hi : i.isRequest = false) (h : (s.step i).Attainable P) :
    s.Attainable P := by
  obtain ⟨later, hl, hp⟩ := h
  refine ⟨i :: later, ?_, hp⟩
  intro j hj
  obtain rfl | hj := List.mem_cons.1 hj
  · exact hi
  · exact hl j hj

lemma Attainable.trans (h : s.Attainable Q) (hq : ∀ x, Q x → x.Attainable P) :
    s.Attainable P := by
  obtain ⟨later, hl, hx⟩ := h
  obtain ⟨more, hm, hp⟩ := hq _ hx
  refine ⟨later ++ more, ?_, ?_⟩
  · intro j hj
    exact (List.mem_append.1 hj).elim (hl j) (hm j)
  · rwa [run_append]

/-- A call stands at a point, in a system that is not shut down and can make addresses. -/
structure Awaits (n : Nat) (k : Call) (s : System) : Prop where
  coherent : s.skeleton.Coherent
  alive : s.channel.shutDown = false
  hasAddress : s.channel.settings.hasAddress = true
  call : s.calls[n]? = some k

namespace Awaits

variable {n m : Nat} {k k' : Call}

lemma step_of (h : s.Awaits n k) (i : Input) (hs : (s.step i).channel.shutDown = false)
    (hc : (s.step i).calls[n]? = some k') : (s.step i).Awaits n k' where
  coherent := h.coherent.move (s.move_step i)
  alive := hs
  hasAddress := by
    have hset : (s.step i).channel.settings = s.channel.settings := (s.move_step i).settings_eq
    rw [hset]
    exact h.hasAddress
  call := hc

lemma alive_proceed (h : s.Awaits n k) (hm : s.calls[m]? = some k') :
    (s.step (.proceed m)).channel.shutDown = false := by
  rw [proceed_eq hm]
  exact (Channel.shutDown_proceed ..).trans h.alive

/-- The call may take its next step. -/
lemma proceed (h : s.Awaits n k) : (s.step (.proceed n)).Awaits n
    { k with phase := (s.channel.proceed s.clock.now k.target k.phase).2 } :=
  h.step_of _ (h.alive_proceed h.call) (calls_proceed_self h.call)

/-- Other calls may take their next steps in the meantime. -/
lemma proceed_other (h : s.Awaits n k) (hm : s.calls[m]? = some k') (hne : m ≠ n) :
    (s.step (.proceed m)).Awaits n k :=
  h.step_of _ (h.alive_proceed hm) ((calls_proceed_ne hm hne).trans h.call)

lemma credential (h : s.Awaits n k) (c : Option Credential) :
    (s.step (.credential c)).Awaits n k :=
  h.step_of _ h.alive h.call

/-- The handshake of another call may fail. -/
lemma failed_other (h : s.Awaits n k) (f : Failure) (hne : m ≠ n) :
    (s.step (.outcome m (.failed f))).Awaits n k := by
  refine h.step_of _ ?_ ?_
  · simp only [step, conclude]
    split
    · exact (Channel.shutDown_settle ..).trans h.alive
    · exact h.alive
  · simp only [step, conclude]
    split
    · exact (getElem?_setPhase_ne _ hne).trans h.call
    · exact h.call

/-- The right to attempt is free. -/
def Free (n : Nat) (k : Call) (s : System) : Prop :=
  s.Awaits n k ∧ s.channel.attempting = false

lemma free_of_settled (h : s.Awaits n k) (hm : s.calls[m]? = some k') (hne : m ≠ n)
    {r : Option Bool} (hp : k'.phase = .settled r) : s.Attainable (Free n k) := by
  refine .step (.proceed m) rfl (.here ⟨h.proceed_other hm hne, ?_⟩)
  rw [proceed_eq hm, hp]
  rfl

lemma free_of_opening (h : s.Awaits n k) (hm : s.calls[m]? = some k') (hne : m ≠ n)
    {g : Nat} {u : Url} {d : Nat} (hp : k'.phase = .opening g u d) :
    s.Attainable (Free n k) := by
  have hset : (s.step (.outcome m (.failed .noCredential))).calls[m]? =
      some { k' with phase := .settled (some false) } := by
    obtain ⟨t, p, x⟩ := k'
    obtain rfl : p = .opening g u d := hp
    simp only [step, conclude, hm, Channel.timely]
    split_ifs <;> exact getElem?_setPhase_self _ hm
  exact .step (.outcome m (.failed .noCredential)) rfl
    ((h.failed_other _ hne).free_of_settled hset hne rfl)

lemma free_of_prepared (h : s.Awaits n k) (hm : s.calls[m]? = some k') (hne : m ≠ n) {u : Url}
    (hp : k'.phase = .prepared u) : s.Attainable (Free n k) := by
  have hset : (s.step (.proceed m)).calls[m]? = some { k' with
      phase := .opening (s.channel.generation + 1) u
        (s.clock.now + s.channel.settings.timeoutMilliseconds) } := by
    rw [calls_proceed_self hm, hp]
    simp only [Channel.proceed, Channel.start, h.alive, Bool.false_eq_true, if_false]
  exact .step (.proceed m) rfl ((h.proceed_other hm hne).free_of_opening hset hne rfl)

lemma free_of_claimed (h : s.Awaits n k) (hm : s.calls[m]? = some k') (hne : m ≠ n)
    (hp : k'.phase = .claimed) : s.Attainable (Free n k) := by
  have hm' : (s.step (.credential none)).calls[m]? = some k' := hm
  have hset : ((s.step (.credential none)).step (.proceed m)).calls[m]? =
      some { k' with phase := .settled (some false) } := by
    rw [calls_proceed_self hm', hp]
    rfl
  exact .step (.credential none) rfl (.step (.proceed m) rfl
    (((h.credential none).proceed_other hm' hne).free_of_settled hset hne rfl))

/-- Whoever holds the right to attempt can come to give it back. -/
lemma free (h : s.Awaits n k) (hk : k.phase.holds = false) : s.Attainable (Free n k) := by
  cases ha : s.channel.attempting with
  | false => exact .here ⟨h, ha⟩
  | true =>
    obtain ⟨m, k', hm, hholds⟩ := h.coherent.exists_holder ha
    replace hm : s.calls[m]? = some k' := hm
    have hne : m ≠ n := by
      rintro rfl
      obtain rfl := Option.some.inj (hm.symm.trans h.call)
      exact absurd (hk.symm.trans hholds) Bool.false_ne_true
    cases hp : k'.phase with
    | claimed => exact h.free_of_claimed hm hne hp
    | prepared u => exact h.free_of_prepared hm hne hp
    | opening g u d => exact h.free_of_opening hm hne hp
    | settled r => exact h.free_of_settled hm hne hp
    | entered | checked | finished r =>
      rw [hp] at hholds
      exact absurd hholds Bool.false_ne_true

/-- The call is about to begin its attempt. -/
def Ready (n : Nat) (k : Call) (s : System) : Prop :=
  s.channel.shutDown = false ∧ ∃ u, s.calls[n]? = some { k with phase := .prepared u }

lemma ready_of_claimed (h : s.Awaits n k) (hp : k.phase = .claimed) : s.Attainable (Ready n k) := by
  let c : Credential := ⟨"t", by decide⟩
  obtain ⟨u, hu⟩ := (ChannelSettings.hasAddress_iff k.target c).1 h.hasAddress
  have hn := (h.credential (some c)).proceed
  have hphase : ((s.step (.credential (some c))).channel.proceed
      (s.step (.credential (some c))).clock.now k.target k.phase).2 = .prepared u := by
    rw [hp]
    simp only [Channel.proceed, Channel.prepare, step, Channel.setCredential, hu]
  rw [hphase] at hn
  exact .step (.credential (some c)) rfl (.step (.proceed n) rfl (.here ⟨hn.alive, u, hn.call⟩))

lemma ready_of_checked (h : s.Awaits n k) (hp : k.phase = .checked) :
    s.Attainable (Ready n k) := by
  refine (h.free (by rw [hp]; rfl)).trans fun x ⟨hx, ha⟩ => ?_
  have hn := hx.proceed
  have hphase : (x.channel.proceed x.clock.now k.target k.phase).2 = .claimed := by
    rw [hp]
    simp only [Channel.proceed, Channel.claim, ha, Bool.false_eq_true, if_false]
  rw [hphase] at hn
  exact .step (.proceed n) rfl (hn.ready_of_claimed rfl)

lemma ready_of_entered (h : s.Awaits n k) (hp : k.phase = .entered)
    (hb : k.target.device.isBlank = false) (hs : s.channel.state ≠ .connected) :
    s.Attainable (Ready n k) := by
  have hn := h.proceed
  have hphase : (s.channel.proceed s.clock.now k.target k.phase).2 = .checked := by
    rw [hp]
    simp only [Channel.proceed, Channel.check, hb, h.alive, hs, false_and, Bool.false_eq_true,
      if_false]
  rw [hphase] at hn
  exact .step (.proceed n) rfl (hn.ready_of_checked rfl)

end Awaits

/-- Every call that may begin an attempt can come to do so. -/
theorem attainable_ready (h : s.skeleton.Coherent) (hs : s.channel.shutDown = false)
    (hc : s.channel.state ≠ .connected) {n : Nat} {k : Call} (hk : s.calls[n]? = some k)
    (hb : k.mayBegin s.channel.settings = true) : s.Attainable (Awaits.Ready n k) := by
  cases hp : k.phase with
  | entered =>
    simp only [Call.mayBegin, hp, Bool.and_eq_true, Bool.not_eq_true'] at hb
    exact Awaits.ready_of_entered ⟨h, hs, hb.2, hk⟩ hp hb.1 hc
  | checked =>
    simp only [Call.mayBegin, hp] at hb
    exact Awaits.ready_of_checked ⟨h, hs, hb, hk⟩ hp
  | claimed =>
    simp only [Call.mayBegin, hp] at hb
    exact Awaits.ready_of_claimed ⟨h, hs, hb, hk⟩ hp
  | prepared u => exact .here ⟨hs, u, by rw [hk, ← hp]⟩
  | opening g u d | settled r | finished r => simp [Call.mayBegin, hp] at hb

end System
end LiveTelemetry
