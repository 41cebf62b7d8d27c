import LiveTelemetry.Channel.System
import Mathlib.Tactic.Common

/-!
The skeleton of a system: what the course of calls, readers and timers depends on, without the
data that passes through. Main statement: every step of a system is a move of its skeleton, so
that whatever all moves keep is kept by all runs.
-/
namespace LiveTelemetry

/-- Whether a call in this phase holds the right to attempt. -/
def Phase.holds : Phase → Bool
  | claimed | prepared _ | opening .. | settled _ => true
  | entered | checked | finished _ => false

/-- The generation whose handshake is awaited. -/
def Phase.generation? : Phase → Option Nat
  | opening g .. => some g
  | _ => none

/-- Whether addresses can be made from the configured one. -/
def ChannelSettings.hasAddress (s : ChannelSettings) : Bool := (Url.parse s.url).isOk

/-- Whether an attempt may still come of a call that has not begun one yet. -/
def Call.mayBegin (s : ChannelSettings) (k : Call) : Bool :=
  match k.phase with
  | .entered => !k.target.device.isBlank && s.hasAddress
  | .checked | .claimed => s.hasAddress
  | .prepared _ => true
  | .opening .. | .settled _ | .finished _ => false

/-- The part of a channel that decides what happens next. -/
structure Control where
  settings : ChannelSettings
  state : ChannelState
  attempting : Bool
  target : Option Target
  generation : Nat
  reader : Option Nat
  timer : Option Timer
  reconnectAllowed : Bool
  shutDown : Bool

structure Skeleton extends Control where
  calls : List Call
  readers : List Nat
  woken : List Timer
  tearing : Bool

def Channel.control (c : Channel) : Control where
  settings := c.settings
  state := c.state
  attempting := c.attempting
  target := c.target
  generation := c.generation
  reader := c.reader
  timer := c.timer
  reconnectAllowed := c.reconnectAllowed
  shutDown := c.shutDown

def System.skeleton (s : System) : Skeleton where
  toControl := s.channel.control
  calls := s.calls
  readers := s.readers
  woken := s.woken
  tearing := s.tearing

namespace Skeleton

def setPhase (n : Nat) (p : Phase) (a : Skeleton) : Skeleton :=
  { a with calls := a.calls.modify n fun k => { k with phase := p } }

/-- What disconnections and teardowns have in common. -/
def close (a : Skeleton) : Skeleton :=
  { a with generation := a.generation + 1, reader := none, timer := none, reconnectAllowed := false }

/-- One move. Each says under which conditions it is made, and all that it changes. -/
inductive Move (a : Skeleton) : Skeleton → Prop
  | rest : Move a a
  | ring {t} (ht : a.timer = some t) (hn : t ∉ a.woken) : Move a { a with woken := a.woken ++ [t] }
  | request (t : Target) : Move a { a with calls := a.calls ++ [⟨t, .entered, none⟩] }
  | wake {i t} (ht : a.woken[i]? = some t) (hg : a.generation = t.generation)
      (hs : a.shutDown = false) (ha : a.reconnectAllowed = true) :
      Move a { a with
        timer := none
        woken := a.woken.eraseIdx i
        calls := a.calls ++ [⟨t.target, .entered, some t⟩] }
  | oversleep (i : Nat) : Move a { a with woken := a.woken.eraseIdx i }
  /-- A call goes on, and nothing else notices. -/
  | advance {n k p} (hk : a.calls[n]? = some k) (hh : p.holds = k.phase.holds)
      (hp : p.generation? = none)
      (hg : a.shutDown = false → k.phase.generation? ≠ some a.generation)
      (hb : Call.mayBegin a.settings { k with phase := p } = true → k.mayBegin a.settings = true) :
      Move a (a.setPhase n p)
  | claim {n k} (hk : a.calls[n]? = some k) (hp : k.phase = .checked)
      (ha : a.attempting = false) : Move a { a.setPhase n .claimed with attempting := true }
  | start {n k u} (deadline : Nat) (hk : a.calls[n]? = some k) (hp : k.phase = .prepared u)
      (hs : a.shutDown = false) :
      Move a { a.setPhase n (.opening (a.generation + 1) u deadline) with
        generation := a.generation + 1
        reader := none
        timer := none
        target := some k.target
        reconnectAllowed := true
        state := .connecting }
  | opened {n k} (hk : a.calls[n]? = some k) (hp : k.phase.generation? = some a.generation)
      (hs : a.shutDown = false) :
      Move a { a.setPhase n (.settled (some true)) with
        reader := some a.generation
        state := .connected
        readers := a.readers ++ [a.generation] }
  | failed {n k} (r : Option Bool) (hk : a.calls[n]? = some k)
      (hp : k.phase.generation? = some a.generation) :
      Move a { a.setPhase n (.settled r) with state := .disconnected }
  | release {n k r} (hk : a.calls[n]? = some k) (hp : k.phase = .settled r) :
      Move a { a.setPhase n (.finished r) with attempting := false }
  | disconnect : Move a { a.close with state := .disconnected }
  | shut (hs : a.shutDown = false) : Move a { a.close with shutDown := true, tearing := true }
  | tidy (ht : a.tearing = true) : Move a { a with state := .disconnected, tearing := false }
  | shutdown (hs : a.shutDown = false) :
      Move a { a.close with shutDown := true, state := .disconnected }
  /-- A reader that feeds nothing stops. -/
  | leave {r g} (hr : a.readers[r]? = some g)
      (hg : a.reader = some g → a.generation = g → a.shutDown = true) :
      Move a { a with readers := a.readers.eraseIdx r }
  /-- The channel ends under its reader, and perhaps a timer is set. -/
  | lose {r g} (timer : Option Timer) (hr : a.readers[r]? = some g) (hg : a.generation = g)
      (hs : a.shutDown = false)
      (ht : timer = a.timer ∨ ∃ t, timer = some t ∧ t.generation = g ∧ a.target = some t.target ∧
        a.state = .connected ∧ a.reconnectAllowed = true) :
      Move a { a with
        reader := none
        state := .disconnected
        timer := timer
        readers := a.readers.eraseIdx r }

variable {a b : Skeleton}

lemma Move.settings_eq (m : a.Move b) : b.settings = a.settings := by
  cases m <;> rfl

/-- Generations only rise. -/
lemma Move.generation_le (m : a.Move b) : a.generation ≤ b.generation := by
  cases m with
  | start | disconnect | shut | shutdown => exact Nat.le_succ _
  | _ => exact Nat.le_refl _

/-- Each move begins at most one generation. -/
lemma Move.generation_le_succ (m : a.Move b) : b.generation ≤ a.generation + 1 := by
  cases m with
  | start | disconnect | shut | shutdown => exact Nat.le_refl _
  | _ => exact Nat.le_succ _

lemma Move.shutDown_of (m : a.Move b) (h : a.shutDown = true) : b.shutDown = true := by
  cases m with
  | shut | shutdown => rfl
  | _ => exact h

/-- No teardown begins once the channel is shut down. -/
lemma Move.tearing_of (m : a.Move b) (hs : a.shutDown = true) (ht : a.tearing = false) :
    b.tearing = false := by
  cases m with
  | shut hs' => exact absurd (hs'.symm.trans hs) Bool.false_ne_true
  | tidy => rfl
  | _ => exact ht

/-- Another target comes only with another generation. -/
lemma Move.target_eq (m : a.Move b) (h : b.generation = a.generation) : b.target = a.target := by
  cases m with
  | start => exact absurd h (Nat.succ_ne_self _)
  | _ => rfl

end Skeleton

@[simp] lemma Channel.control_route (clock : Channel.Clock) (raw : String) (c : Channel) :
    (c.route clock raw).control = c.control := by
  unfold Channel.route
  split <;> rfl

lemma Channel.control_deliver (clock : Channel.Clock) (g : Nat) (f : Frame) (c : Channel) :
    (c.deliver clock g f).1.control = c.control := by
  cases f with
  | idle => rfl
  | text raw =>
    simp only [Channel.deliver]
    split <;> simp
  | binary octets =>
    simp only [Channel.deliver]
    split
    · split
      · simp
      · rfl
    · rfl

lemma Channel.goesOn_deliver {clock : Channel.Clock} {g : Nat} {f : Frame} {c : Channel}
    (h : (c.deliver clock g f).2 = false) : c.isCurrent g = false := by
  cases f with
  | idle => simp [Channel.deliver] at h
  | text raw =>
    simp only [Channel.deliver] at h
    split at h <;> simp_all
  | binary octets =>
    simp only [Channel.deliver] at h
    split at h
    · split at h <;> simp at h
    · simp_all

lemma Channel.isCurrent_iff {g : Nat} {c : Channel} :
    c.isCurrent g = true ↔ c.generation = g ∧ c.shutDown = false := by
  simp [Channel.isCurrent]

/-- The timer that is pending once the channel has ended under the reader of generation `g`. -/
def Channel.timerAfter (now g : Nat) (c : Channel) : Option Timer :=
  if c.state = .connected ∧ c.reconnectAllowed ∧ c.settings.autoReconnect then
    match c.target with
    | none => c.timer
    | some t => some ⟨g, now + c.settings.reconnectMilliseconds, t⟩
  else c.timer

lemma Channel.control_finish {now g : Nat} {e : Ending} {c : Channel}
    (hc : c.isCurrent g = true) :
    (c.finish now g e).control = { c.control with
      reader := none
      state := .disconnected
      timer := c.timerAfter now g } := by
  simp only [Channel.finish, hc, if_true, Channel.timerAfter]
  split_ifs
  · cases ht : c.target <;> simp [Channel.schedule, Channel.record, Channel.control, ht]
  · rfl

lemma Channel.address_eq_ok {s : ChannelSettings} {t : Target} {k : Credential} {u : Url}
    (h : t.address s k = .ok u) : s.hasAddress = true := by
  unfold Target.address at h
  split at h
  · cases h
  · next v hv => simp [ChannelSettings.hasAddress, hv, Except.isOk, Except.toBool]

/-- A step of a call that begins no attempt changes only who may attempt and the last error. -/
lemma Channel.proceed_of_not_begins (now : Nat) (t : Target) {p : Phase} {c : Channel}
    (h : ∀ u, p = .prepared u → c.shutDown = true) :
    ∃ a e, (c.proceed now t p).1 = { c with attempting := a, lastError := e } := by
  cases p with
  | entered =>
    simp only [Channel.proceed, Channel.check]
    split_ifs <;> exact ⟨_, _, rfl⟩
  | checked =>
    simp only [Channel.proceed, Channel.claim]
    split_ifs <;> exact ⟨_, _, rfl⟩
  | claimed =>
    simp only [Channel.proceed, Channel.prepare]
    split
    · exact ⟨_, _, rfl⟩
    · split <;> exact ⟨_, _, rfl⟩
  | prepared u =>
    rw [Channel.proceed, Channel.start, if_pos (h u rfl)]
    exact ⟨_, _, rfl⟩
  | opening | settled | finished => exact ⟨_, _, rfl⟩

namespace System
open Skeleton

lemma setPhase_self {s : System} {n : Nat} {k : Call} (hk : s.calls[n]? = some k) :
    s.setPhase n k.phase = s := by
  have h : s.calls.modify n (fun j => { j with phase := k.phase }) = s.calls := by
    apply List.ext_getElem?
    intro i
    rw [List.getElem?_modify]
    by_cases hi : n = i
    · subst i
      simp [hk]
    · simp [hi]
  simp [setPhase, h]

/-- A call goes on, and of the channel only such parts change as decide nothing. -/
lemma move_advance {s : System} {c : Channel} {n : Nat} {k : Call} {p : Phase}
    (hc : c.control = s.channel.control) (hk : s.calls[n]? = some k)
    (hh : p.holds = k.phase.holds) (hp : p.generation? = none)
    (hg : s.channel.shutDown = false → k.phase.generation? ≠ some s.channel.generation)
    (hb : Call.mayBegin s.channel.settings { k with phase := p } = true →
      k.mayBegin s.channel.settings = true) :
    s.skeleton.Move (setPhase n p { s with channel := c }).skeleton := by
  have h : (setPhase n p { s with channel := c }).skeleton = s.skeleton.setPhase n p := by
    simp only [skeleton, setPhase, Skeleton.setPhase, hc]
  rw [h]
  exact .advance hk hh hp hg hb

/-- Nothing changes but the channel, in parts that decide nothing. -/
lemma move_rest {s : System} {c : Channel} (hc : c.control = s.channel.control) :
    s.skeleton.Move (System.skeleton { s with channel := c }) := by
  have h : System.skeleton { s with channel := c } = s.skeleton := by
    simp only [skeleton, hc]
  rw [h]
  exact .rest

variable (s : System)

lemma move_proceed (n : Nat) : s.skeleton.Move (s.proceed n).skeleton := by
  unfold System.proceed
  split
  · exact .rest
  · next k hk =>
    cases hp : k.phase with
    | entered =>
      simp only [Channel.proceed, Channel.check]
      split_ifs with hb hs hc
      · exact move_advance rfl hk (by rw [hp]; rfl) rfl (by simp [hp, Phase.generation?])
          (by simp [Call.mayBegin])
      · exact move_advance rfl hk (by rw [hp]; rfl) rfl (by simp [hp, Phase.generation?])
          (by simp [Call.mayBegin])
      · exact move_advance rfl hk (by rw [hp]; rfl) rfl (by simp [hp, Phase.generation?])
          (by simp [Call.mayBegin])
      · exact move_advance rfl hk (by rw [hp]; rfl) rfl (by simp [hp, Phase.generation?])
          (by simp [Call.mayBegin, hp, hb])
    | checked =>
      simp only [Channel.proceed, Channel.claim]
      split_ifs with ha
      · exact move_advance rfl hk (by rw [hp]; rfl) rfl (by simp [hp, Phase.generation?])
          (by simp [Call.mayBegin])
      · exact .claim hk hp (Bool.eq_false_iff.2 ha)
    | claimed =>
      simp only [Channel.proceed, Channel.prepare]
      split
      · exact move_advance rfl hk (by rw [hp]; rfl) rfl (by simp [hp, Phase.generation?])
          (by simp [Call.mayBegin])
      · split
        · exact move_advance rfl hk (by rw [hp]; rfl) rfl (by simp [hp, Phase.generation?])
            (by simp [Call.mayBegin])
        · next hu =>
          have ha := Channel.address_eq_ok hu
          exact move_advance rfl hk (by rw [hp]; rfl) rfl (by simp [hp, Phase.generation?])
            (by simp [Call.mayBegin, hp, ha])
    | prepared u =>
      simp only [Channel.proceed, Channel.start]
      split_ifs with hs
      · exact move_advance rfl hk (by rw [hp]; rfl) rfl (by simp [hp, Phase.generation?])
          (by simp [Call.mayBegin])
      · exact .start _ hk hp (Bool.eq_false_iff.2 hs)
    | opening g u d =>
      simp only [Channel.proceed, ← hp, setPhase_self hk]
      exact .rest
    | settled r => exact .release hk hp
    | finished r =>
      simp only [Channel.proceed, ← hp, setPhase_self hk]
      exact .rest

/-- A handshake that is over counts only if its generation is still in force. -/
lemma move_conclude (n : Nat) (o : Outcome) : s.skeleton.Move (s.conclude n o).skeleton := by
  unfold System.conclude
  split
  · next t g u d x hk =>
    cases Channel.timely s.clock.now d o s.channel.settings with
    | opened =>
      simp only [Channel.settle]
      split_ifs with hc
      · obtain ⟨rfl, hs⟩ := Channel.isCurrent_iff.1 hc
        exact .opened hk rfl hs
      · rw [Channel.isCurrent_iff] at hc
        exact move_advance rfl hk rfl rfl
          (fun hs hg => hc ⟨(Option.some.inj hg).symm, hs⟩) (by simp [Call.mayBegin])
    | failed f =>
      simp only [Channel.settle]
      split_ifs with hc
      · subst hc
        exact .failed _ hk rfl
      · exact move_advance rfl hk rfl rfl (fun _ hg => hc (Option.some.inj hg).symm)
          (by simp [Call.mayBegin])
  · exact .rest

lemma move_expire (n : Nat) : s.skeleton.Move (s.expire n).skeleton := by
  unfold System.expire
  split
  · split_ifs
    · exact s.move_conclude n _
    · exact .rest
  · exact .rest

lemma move_abandon (n : Nat) : s.skeleton.Move (s.abandon n).skeleton := by
  unfold System.abandon
  split
  · next t g u d x hk =>
    simp only [Channel.abandon]
    split_ifs with hc
    · obtain ⟨rfl, hs⟩ := Channel.isCurrent_iff.1 hc
      exact .failed _ hk rfl
    · rw [Channel.isCurrent_iff] at hc
      exact move_advance rfl hk rfl rfl
        (fun hs hg => hc ⟨(Option.some.inj hg).symm, hs⟩) (by simp [Call.mayBegin])
  · next t x hk =>
    exact move_advance rfl hk rfl rfl (by simp [Phase.generation?]) (by simp [Call.mayBegin])
  · exact .rest

lemma move_frame (r : Nat) (f : Frame) : s.skeleton.Move (s.frame r f).skeleton := by
  unfold System.frame
  split
  · exact .rest
  · next g hr =>
    have hc := s.channel.control_deliver s.clock g f
    cases hg : (s.channel.deliver s.clock g f).2 with
    | true =>
      simp only [hg, if_true]
      exact move_rest hc
    | false =>
      have hn := Channel.goesOn_deliver hg
      simp only [Channel.isCurrent, Bool.and_eq_false_iff, beq_eq_false_iff_ne, ne_eq,
        Bool.not_eq_false'] at hn
      simp only [hg, Bool.false_eq_true, if_false, skeleton, hc]
      exact .leave hr (fun _ h => hn.resolve_left (fun hne => hne h))

lemma move_stop (r : Nat) : s.skeleton.Move (s.stop r).skeleton := by
  unfold System.stop
  split
  · exact .rest
  · next g hr =>
    split_ifs with h
    · exact .rest
    · exact .leave hr (fun h' => absurd h' h)

lemma move_ending (r : Nat) (e : Ending) : s.skeleton.Move (s.ending r e).skeleton := by
  unfold System.ending
  split
  · exact .rest
  · next g hr =>
    cases hc : s.channel.isCurrent g with
    | true =>
      obtain ⟨hg, hs⟩ := Channel.isCurrent_iff.1 hc
      simp only [skeleton, Channel.control_finish hc]
      refine Move.lose (a := s.skeleton) _ hr hg hs ?_
      unfold Channel.timerAfter
      split_ifs with hl
      · cases ht : s.channel.target with
        | none => exact .inl rfl
        | some t => exact .inr ⟨_, rfl, rfl, ht, hl.1, hl.2.1⟩
      · exact .inl rfl
    | false =>
      rw [Channel.finish_of_not_isCurrent hc]
      refine Move.leave (a := s.skeleton) hr fun _ hg => ?_
      by_contra hs
      rw [Channel.isCurrent_iff.2 ⟨hg, Bool.eq_false_iff.2 hs⟩] at hc
      contradiction

lemma move_pass (ms : Nat) : s.skeleton.Move (s.pass ms).skeleton := by
  have hnil : s.skeleton.Move { s.skeleton with woken := s.woken ++ [] } := by
    simpa [skeleton] using Move.rest (a := s.skeleton)
  unfold System.pass
  cases ht : s.channel.timer with
  | none => exact hnil
  | some t =>
    dsimp only
    split_ifs with hd
    · simp only [Bool.and_eq_true, Bool.not_eq_true', List.contains_eq_mem,
        decide_eq_false_iff_not] at hd
      exact Move.ring (a := s.skeleton) ht hd.2
    · exact hnil

lemma move_wake (i : Nat) : s.skeleton.Move (s.wake i).skeleton := by
  unfold System.wake
  split
  · exact .rest
  · next t ht =>
    unfold Channel.wake
    split_ifs with hc
    · simp only [Bool.and_eq_true] at hc
      obtain ⟨hg, hs⟩ := Channel.isCurrent_iff.1 hc.1
      exact .wake ht hg hs hc.2
    · exact .oversleep i

lemma move_shutdown : s.skeleton.Move (s.step .shutdown).skeleton := by
  simp only [System.step, Channel.shutdown]
  split_ifs with hs
  · exact .rest
  · simp only [Channel.shut, hs]
    exact .shutdown (Bool.eq_false_iff.2 hs)

lemma move_shut : s.skeleton.Move s.shut.skeleton := by
  unfold System.shut Channel.shut
  cases hs : s.channel.shutDown with
  | true => simpa [skeleton] using Move.rest (a := s.skeleton)
  | false =>
    rw [if_neg Bool.false_ne_true, Bool.not_false, Bool.or_true]
    exact Move.shut (a := s.skeleton) hs

lemma move_tidy : s.skeleton.Move s.tidy.skeleton := by
  unfold System.tidy
  split_ifs with ht
  · exact .tidy ht
  · exact .rest

/-- Every step of a system is a move of its skeleton. -/
theorem move_step (i : Input) : s.skeleton.Move (s.step i).skeleton := by
  cases i with
  | connect device vendor => exact .request _
  | proceed n => exact s.move_proceed n
  | outcome n o => exact s.move_conclude n o
  | expire n => exact s.move_expire n
  | abandon n => exact s.move_abandon n
  | disconnect => exact .disconnect
  | shutdown => exact s.move_shutdown
  | shut => exact s.move_shut
  | tidy => exact s.move_tidy
  | frame r f => exact s.move_frame r f
  | ending r e => exact s.move_ending r e
  | stop r => exact s.move_stop r
  | pass ms => exact s.move_pass ms
  | wake i => exact s.move_wake i
  | credential k => exact .rest
  | clearStore => exact .rest
  | subscribe name log => exact .rest
  | unsubscribe id => exact .rest

/-- What every move keeps is kept by every run. -/
theorem skeleton_run {P : Skeleton → Prop} (hP : ∀ a b, Skeleton.Move a b → P a → P b)
    (inputs : List Input) (h : P s.skeleton) : P (s.run inputs).skeleton := by
  induction inputs generalizing s with
  | nil => exact h
  | cons i is ih => exact ih (s.step i) (hP _ _ (s.move_step i) h)

/-- A generation that is over stays so. -/
lemma lt_generation_run {g : Nat} (h : g < s.channel.generation) (inputs : List Input) :
    g < (s.run inputs).channel.generation :=
  s.skeleton_run (P := fun a => g < a.generation)
    (fun _ _ m hl => Nat.lt_of_lt_of_le hl m.generation_le) inputs h

/-- A run begins at most as many generations as it has inputs. -/
lemma generation_run_le (inputs : List Input) :
    (s.run inputs).channel.generation ≤ s.channel.generation + inputs.length := by
  induction inputs generalizing s with
  | nil => exact Nat.le_refl _
  | cons i is ih =>
    have hstep : (s.step i).channel.generation ≤ s.channel.generation + 1 :=
      (s.move_step i).generation_le_succ
    have hrun : (s.run (i :: is)).channel.generation ≤
        (s.step i).channel.generation + is.length := ih (s.step i)
    simp only [List.length_cons]
    omega

end System
end LiveTelemetry
