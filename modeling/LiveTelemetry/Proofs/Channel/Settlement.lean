import LiveTelemetry.Proofs.Channel.Course
import LiveTelemetry.Proofs.Channel.ShownState
import LiveTelemetry.Proofs.Channel.Uninterrupted

/-!
How attempts end. Main statement: in every run an attempt that is still in force when its handshake
ends, in whichever way, leaves the channel as this way demands, and gives the right to attempt back,
so that the next call that has all it needs begins an attempt.
-/
namespace LiveTelemetry

/-- How a handshake ends. -/
inductive Verdict where
  | opened
  /-- It fails, for a reason that the network or the backend gives. -/
  | refused (reason : String)
  /-- Nothing has come of it by its deadline. -/
  | late
  /-- Its call is given up. -/
  | abandoned

namespace Verdict

def opens : Verdict → Bool
  | opened => true
  | refused _ | late | abandoned => false

/-- What the call returns; one that is given up returns nothing. -/
def result : Verdict → Option Bool
  | opened => some true
  | refused _ | late => some false
  | abandoned => none

def state (v : Verdict) : ChannelState := if v.opens then .connected else .disconnected

/-- The error that is left behind. -/
def error? (s : ChannelSettings) : Verdict → Option Failure
  | opened => none
  | refused reason => some (.ofChannel reason)
  | late => some (Channel.expired s)
  | abandoned => some Channel.cancelled

def kind? : Verdict → Option Failure.Kind
  | opened => none
  | refused _ | abandoned => some .transport
  | late => some .timeout

lemma map_kind_error (v : Verdict) (s : ChannelSettings) :
    (v.error? s).map Failure.kind = v.kind? := by
  cases v <;> rfl

end Verdict

/-- A handshake that fails does so with a failure of the push channel. -/
def Input.FromChannel (i : Input) : Prop :=
  ∀ n f, i = .outcome n (.failed f) → ∃ reason, f = .ofChannel reason

namespace Channel

variable {t : Target} {u : Url} {c : Channel} {g : Nat}

/-- Ends the attempt of generation `g`. -/
def conclude (g : Nat) (c : Channel) : Verdict → Channel × Phase
  | .opened => c.settle g .opened
  | .refused reason => c.settle g (.failed (.ofChannel reason))
  | .late => c.settle g (.failed (expired c.settings))
  | .abandoned => c.abandon g

/-- The end of an attempt that is in force. -/
lemma conclude_of_isCurrent (h : c.isCurrent g = true) (v : Verdict) :
    c.conclude g v = ({ c with
        state := v.state
        reader := if v.opens then some g else c.reader
        lastError := v.error? c.settings
        counters := if v.opens then c.counters.openSession else c.counters },
      .settled v.result) := by
  obtain ⟨hg, -⟩ := isCurrent_iff.1 h
  cases v with
  | opened => rw [conclude, settle, if_pos h]; rfl
  | refused reason => rw [conclude, settle, if_pos hg]; rfl
  | late => rw [conclude, settle, if_pos hg]; rfl
  | abandoned => rw [conclude, abandon, if_pos h]; rfl

/-- With the credential that is held the address of a target can be made. -/
def Supplies (t : Target) (u : Url) (c : Channel) : Prop :=
  ∃ k, c.credentials.held = some k ∧ t.address c.settings k = .ok u

/-- A call has all that an attempt takes, apart from the right to it. -/
structure Suits (t : Target) (u : Url) (c : Channel) : Prop where
  passes : c.Passes t
  address : c.Supplies t u

lemma Suits.accepts (h : c.Suits t u) (ha : c.attempting = false) : c.Accepts t u :=
  ⟨h.passes.device, h.passes.alive, h.passes.other, ha, h.address⟩

end Channel

namespace System

variable {s : System} {n : Nat} {t : Target} {g : Nat} {u : Url} {d : Nat} {x : Option Timer}
  {i : Input} {v : Verdict}

/-- With an input the handshake of a call ends that must be over by `d`. -/
inductive Ends (s : System) (n d : Nat) : Input → Verdict → Prop
  | opened (hd : s.clock.now ≤ d) : Ends s n d (.outcome n .opened) .opened
  | refused (reason : String) (hd : s.clock.now ≤ d) :
    Ends s n d (.outcome n (.failed (.ofChannel reason))) (.refused reason)
  | late (hd : d ≤ s.clock.now) : Ends s n d (.expire n) .late
  /-- Whatever comes behind the deadline comes too late. -/
  | overdue (o : Outcome) (hd : d < s.clock.now) : Ends s n d (.outcome n o) .late
  | abandoned : Ends s n d (.abandon n) .abandoned

/-- The handshake of a call has ended, and an open channel that is kept has got a reader. -/
def conclusion (n g : Nat) (v : Verdict) (s : System) : System :=
  { s.put n (s.channel.conclude g v) with
    readers := match (s.channel.conclude g v).2 with
      | .settled (some true) => s.readers ++ [g]
      | _ => s.readers }

lemma conclude_eq (hk : s.calls[n]? = some ⟨t, .opening g u d, x⟩) {o : Outcome}
    (h : s.channel.settle g (Channel.timely s.clock.now d o s.channel.settings) =
      s.channel.conclude g v) : s.conclude n o = s.conclusion n g v := by
  simp only [conclude, hk, h]
  rfl

lemma step_of_ends (hk : s.calls[n]? = some ⟨t, .opening g u d, x⟩) (h : s.Ends n d i v) :
    s.step i = s.conclusion n g v := by
  have hlate : ∀ o, Channel.timely s.clock.now d o s.channel.settings =
      .failed (Channel.expired s.channel.settings) → s.conclude n o = s.conclusion n g .late :=
    fun o ho => conclude_eq hk (by rw [ho]; rfl)
  cases h with
  | opened hd | refused reason hd => exact conclude_eq hk (by rw [Channel.timely_of_le hd]; rfl)
  | late hd =>
    simp only [step, expire, hk, hd, if_true]
    exact hlate _ (by simp [Channel.timely])
  | overdue o hd => exact hlate o (by simp [Channel.timely, hd])
  | abandoned =>
    have hr : ∃ c r, s.channel.abandon g = (c, .settled r) ∧ r ≠ some true := by
      unfold Channel.abandon
      split_ifs <;> exact ⟨_, _, rfl, by simp⟩
    obtain ⟨c, r, ha, hr⟩ := hr
    simp only [step, abandon, hk, conclusion, Channel.conclude, ha]
    split
    · next he => exact absurd (Phase.settled.inj he) hr
    · rfl

/-- A handshake ends in none but these ways. -/
lemma ends_of_step (hk : s.calls[n]? = some ⟨t, .opening g u d, x⟩) (hi : i.FromChannel)
    (h : (s.step i).calls[n]? ≠ s.calls[n]?) : ∃ v, s.Ends n d i v := by
  obtain ⟨p, hp, turn⟩ := exists_turn_step hk i
  cases turn with
  | stay | proceed => exact absurd (hp.trans hk.symm) h
  | conclude _ hi' =>
    obtain ⟨o, rfl⟩ | rfl := hi'
    · by_cases hd : d < s.clock.now
      · exact ⟨.late, .overdue o hd⟩
      · cases o with
        | opened => exact ⟨.opened, .opened (Nat.le_of_not_lt hd)⟩
        | failed f =>
          obtain ⟨reason, rfl⟩ := hi n f rfl
          exact ⟨.refused reason, .refused reason (Nat.le_of_not_lt hd)⟩
    · by_cases hd : d ≤ s.clock.now
      · exact ⟨.late, .late hd⟩
      · exact absurd (by simp only [step, expire, hk, hd, if_false]) h
  | abandon => exact ⟨.abandoned, .abandoned⟩
  | giveUp hq => cases hq

/-- What the end of an attempt leaves that was in force. -/
structure Settles (s : System) (n : Nat) (t : Target) (v : Verdict) (y : System) : Prop where
  call : ∃ x, y.calls[n]? = some ⟨t, .settled v.result, x⟩
  state : y.channel.state = v.state
  target : y.channel.target = some t
  generation : y.channel.generation = s.channel.generation
  reader : y.channel.reader = if v.opens then some s.channel.generation else none
  readers : y.readers.count s.channel.generation = v.opens.toNat
  timer : y.channel.timer = none
  lastError : y.channel.lastError = v.error? s.channel.settings
  kind : y.channel.lastError.map Failure.kind = v.kind?

lemma count_readers {y : System} (h : y.skeleton.Coherent) : y.readers.count y.channel.generation =
    (decide (y.channel.reader = some y.channel.generation)).toNat := by
  by_cases hr : y.channel.reader = some y.channel.generation
  · obtain ⟨-, hmem, -⟩ := h.reader _ hr
    rw [decide_eq_true hr]
    exact List.count_eq_one_of_mem h.readers_nodup hmem
  · rw [decide_eq_false hr]
    exact List.count_eq_zero_of_not_mem fun hmem => hr (h.reader_current hmem)

lemma settles_of_ends (h : s.skeleton.Coherent)
    (hk : s.calls[n]? = some ⟨t, .opening s.channel.generation u d, x⟩) (he : s.Ends n d i v) :
    s.Settles n t v (s.step i) := by
  have hmem := List.mem_of_getElem? hk
  obtain ⟨hs, -, ht, -⟩ := h.pending _ hmem rfl
  have hr : s.channel.reader = none := h.reader_none_of_pending hmem rfl
  have htm : s.channel.timer = none := h.timer_none_of_pending hmem rfl
  have hc := Channel.conclude_of_isCurrent (Channel.isCurrent_iff.2 ⟨rfl, hs⟩) v
  have hcount := count_readers (h.move (s.move_step i))
  have hstep := step_of_ends hk he
  rw [conclusion, hc] at hstep
  rw [hstep] at hcount ⊢
  have hreader : (if v.opens then some s.channel.generation else s.channel.reader) =
      if v.opens then some s.channel.generation else none := by rw [hr]
  refine ⟨⟨x, getElem?_setPhase_self _ hk⟩, rfl, ht, rfl, hreader, ?_, htm, rfl, v.map_kind_error _⟩
  refine hcount.trans ?_
  simp only [put, setPhase, hr]
  cases v.opens <;> simp

/-- A call whose attempt is over has given back the right to attempt, and the next call that has all
it needs begins. -/
structure Releases (n : Nat) (v : Verdict) (z : System) : Prop where
  free : z.channel.attempting = false
  result : z.result? n = v.result
  next : ∀ device vendor u, z.channel.Suits (.ofRequest z.channel.settings device vendor) u →
    z.perform (.connect device vendor) = { z with
      channel := z.channel.begin (.ofRequest z.channel.settings device vendor)
      calls := z.calls ++ [⟨.ofRequest z.channel.settings device vendor,
        .opening (z.channel.generation + 1) u
          (z.clock.now + z.channel.settings.timeoutMilliseconds), none⟩] }

lemma settled_run {r : Option Bool} (hk : s.calls[n]? = some ⟨t, .settled r, x⟩)
    {later : List Input} (hl : ∀ j ∈ later, j ≠ .proceed n) :
    (s.run later).calls[n]? = some ⟨t, .settled r, x⟩ := by
  induction later generalizing s with
  | nil => exact hk
  | cons j js ih =>
    exact ih (settled_step hk (hl j List.mem_cons_self))
      fun j' hj => hl j' (List.mem_cons_of_mem _ hj)

lemma releases_of_settled (hk : s.calls[n]? = some ⟨t, .settled v.result, x⟩) :
    Releases n v (s.step (.proceed n)) := by
  have hfree : (s.step (.proceed n)).channel.attempting = false := by
    rw [proceed_eq hk]
    rfl
  refine ⟨hfree, ?_, fun device vendor u hu => ?_⟩
  · simp only [result?, calls_proceed_self hk]
    rfl
  · rw [perform_connect, settleCall_enter_of_accepts (hu.accepts hfree)]

/-- In every run an attempt that is in force when its handshake ends settles as the way of its end
demands: for what was requested, by the deadline that was set when it began, and so that the right
to attempt is free again as soon as its call goes on. -/
theorem settlement_run (settings : ChannelSettings) (capacity : Nat) (credentials : CredentialSlot)
    (clock : Channel.Clock) (inputs : List Input) :
    let fresh := new (.new settings capacity credentials) clock
    let s := fresh.run inputs
    ∀ n t u d x, s.calls[n]? = some ⟨t, .opening s.channel.generation u d, x⟩ →
      (((x = none → fresh.RequestedIn inputs n t) ∧ ∀ r, x = some r → t = r.target) ∧
        ∃ before, fresh.BeganIn inputs n s.channel.generation d before) ∧
      (∀ i, i.FromChannel → (s.step i).calls[n]? = s.calls[n]? ∨ ∃ v, s.Ends n d i v) ∧
      ∀ i v, s.Ends n d i v → s.Settles n t v (s.step i) ∧
        ∀ later, (∀ j ∈ later, j ≠ .proceed n) →
          Releases n v (((s.step i).run later).step (.proceed n)) := by
  intro fresh s n t u d x hk
  refine ⟨⟨origin_of_call rfl inputs hk, began_of_opening rfl inputs hk⟩, ?_, ?_⟩
  · intro i hi
    exact or_iff_not_imp_left.2 (ends_of_step hk hi)
  · intro i v he
    have hset := settles_of_ends (coherent_run ..) hk he
    obtain ⟨x', hk'⟩ := hset.call
    exact ⟨hset, fun later hl => releases_of_settled (settled_run hk' hl)⟩

/-- The handshake of a reconnection succeeds. -/
theorem settlement_reconnecting : ∃ u d x,
    (resting.run reconnecting).calls[1]? = some ⟨⟨⟨"r1"⟩, "generic"⟩,
      .opening (resting.run reconnecting).channel.generation u d, x⟩ ∧
    (resting.run reconnecting).Ends 1 d (.outcome 1 .opened) .opened ∧
    (resting.run reconnecting).Settles 1 ⟨⟨"r1"⟩, "generic"⟩ .opened
      ((resting.run reconnecting).step (.outcome 1 .opened)) ∧
    Releases 1 .opened
      (((resting.run reconnecting).step (.outcome 1 .opened)).step (.proceed 1)) := by
  refine ⟨_, _, _, rfl, .opened ?_, ?_⟩
  · decide +kernel
  · have h := (settlement_run {} 50 (.ofToken (some "t")) ⟨0, "now"⟩ reconnecting 1 _ _ _ _ rfl).2.2
      _ _ (.opened (by decide +kernel))
    exact ⟨h.1, h.2 [] (by simp)⟩

end System
end LiveTelemetry
