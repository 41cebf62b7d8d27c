import LiveTelemetry.Proofs.Channel.AtRest

/-!
When a lost channel is opened again. Main statement: in every run of whole operations a timer is set
exactly when the open channel ends under its reader, and then it fires once, when it is due, for the
target of the session that was lost, unless it is called off before.
-/
namespace LiveTelemetry

/-- The pending timer, and how many timers were set so far. -/
def Channel.plan (c : Channel) : Option Timer × UInt64 := (c.timer, c.counters.reconnects)

lemma Channel.plan_route (clock : Channel.Clock) (raw : String) (c : Channel) :
    (c.route clock raw).plan = c.plan := by
  unfold Channel.route
  split
  · next m _ =>
    simp only [Channel.takeMetric, Channel.plan, Counters.sample, Counters.receive]
    split_ifs <;> rfl
  · rfl
  · rfl

lemma Channel.plan_deliver (clock : Channel.Clock) (g : Nat) (f : Frame) (c : Channel) :
    (c.deliver clock g f).1.plan = c.plan := by
  cases f with
  | idle => rfl
  | text raw =>
    simp only [Channel.deliver]
    split_ifs
    · exact Channel.plan_route clock raw c
    · rfl
  | binary octets =>
    simp only [Channel.deliver]
    split_ifs
    · split
      · exact Channel.plan_route clock _ c
      · rfl
    · rfl

/-- The open channel ends under its reader. -/
lemma Channel.plan_finish {now g : Nat} {e : Ending} {t : Target} {c : Channel}
    (hg : c.isCurrent g = true) (hs : c.state = .connected) (ht : c.target = some t)
    (ha : c.reconnectAllowed = true) :
    (c.finish now g e).plan =
      if c.settings.autoReconnect then
        (some ⟨g, now + c.settings.reconnectMilliseconds, t⟩, c.counters.reconnects + 1)
      else c.plan := by
  cases hauto : c.settings.autoReconnect <;>
    simp [Channel.finish, hg, hs, ha, hauto, Channel.schedule, Channel.record, ht, Channel.plan,
      Counters.scheduleReconnect]

/-- A timer will not be pending any more: its generation is over, or has neither a reader that could
lose the channel nor a handshake that could bring one. -/
def Skeleton.Over (t : Timer) (a : Skeleton) : Prop :=
  t.generation < a.generation ∨
    t.generation = a.generation ∧ a.timer = none ∧ a.reader = none ∧
      ∀ k ∈ a.calls, k.phase.generation? ≠ some a.generation

namespace Skeleton

variable {a b : Skeleton} {t : Timer}

lemma Over.timer_ne (hc : a.Coherent) (h : a.Over t) : a.timer ≠ some t := by
  intro ht
  obtain h | ⟨-, h, -⟩ := h
  · exact absurd (hc.timer t ht).1 (Nat.ne_of_lt h)
  · exact absurd (h.symm.trans ht) (by simp)

lemma Over.move (m : a.Move b) (hc : a.Coherent) (h : a.Over t) : b.Over t := by
  obtain h | ⟨hg, htimer, hreader, hcalls⟩ := h
  · exact .inl (Nat.lt_of_lt_of_le h m.generation_le)
  have hset : ∀ {n k p}, a.calls[n]? = some k → p.generation? = none →
      ∀ k' ∈ (a.setPhase n p).calls, k'.phase.generation? ≠ some a.generation := by
    intro n k p hk hp k' hk'
    obtain rfl | ⟨m, -, hm⟩ := mem_setPhase hk hk'
    · rw [hp]
      simp
    · exact hcalls k' (List.mem_of_getElem? hm)
  have henter : ∀ (u : Target) (x : Option Timer), ∀ k ∈ a.calls ++ [⟨u, .entered, x⟩],
      k.phase.generation? ≠ some a.generation := by
    intro u x k hk
    obtain hk | hk := List.mem_append.1 hk
    · exact hcalls k hk
    · rw [List.mem_singleton.1 hk]
      simp [Phase.generation?]
  cases m with
  | start | disconnect | shut | shutdown => exact .inl (Nat.lt_succ_of_le (Nat.le_of_eq hg))
  | request u => exact .inr ⟨hg, htimer, hreader, henter u none⟩
  | wake => exact .inr ⟨hg, rfl, hreader, henter _ _⟩
  | advance hk _ hp => exact .inr ⟨hg, htimer, hreader, hset hk hp⟩
  | claim hk | release hk => exact .inr ⟨hg, htimer, hreader, hset hk rfl⟩
  | opened hk hp | failed _ hk hp => exact absurd hp (hcalls _ (List.mem_of_getElem? hk))
  | lose _ hr hgen =>
    subst hgen
    exact absurd (hreader.symm.trans (hc.reader_current (List.mem_of_getElem? hr))) (by simp)
  | _ => exact .inr ⟨hg, htimer, hreader, hcalls⟩

/-- A pending timer stays so, or is over. -/
lemma pending_move (m : a.Move b) (hc : a.Coherent) (ht : a.timer = some t) :
    b.timer = some t ∨ b.Over t := by
  obtain ⟨hg, -, hstate, -⟩ := hc.timer t ht
  have hreader : a.reader = none := by
    by_contra hr
    obtain ⟨g, hr⟩ := Option.ne_none_iff_exists'.1 hr
    exact absurd ((hc.reader g hr).2.2.2.1.symm.trans hstate) (by decide)
  cases m with
  | start | disconnect | shut | shutdown =>
    exact .inr (.inl (Nat.lt_succ_of_le (Nat.le_of_eq hg)))
  | wake =>
    refine .inr (.inr ⟨hg, rfl, hreader, ?_⟩)
    intro k hk hp
    obtain hk | hk := List.mem_append.1 hk
    · exact absurd ((hc.timer_none_of_pending hk hp).symm.trans ht) (by simp)
    · rw [List.mem_singleton.1 hk] at hp
      cases hp
  | lose _ hr hgen =>
    subst hgen
    exact absurd (hreader.symm.trans (hc.reader_current (List.mem_of_getElem? hr))) (by simp)
  | _ => exact .inl ht

end Skeleton

namespace System

/-- An operation ends the open channel under its reader. -/
def EndsSession (s : System) (op : Operation) : Prop :=
  ∃ r e g, op = .ending r e ∧ s.readers[r]? = some g ∧ s.channel.reader = some g

/-- An operation calls off whatever reconnection is planned: it closes the channel for the user, or
is a call that passes all checks. -/
def CallsOff (s : System) : Operation → Prop
  | .disconnect | .shutdown => True
  | .connect device vendor =>
    ∃ u, s.channel.Accepts (.ofRequest s.channel.settings device vendor) u
  | _ => False

/-- Whether a pending timer fires with an operation. -/
def fires (t : Timer) (s : System) : Operation → Bool
  | .fire i => s.woken[i]? = some t ∧ s.channel.timer = some t
  | _ => false

/-- An operation sets a timer. -/
def Arms (s : System) (op : Operation) (t : Timer) : Prop :=
  (s.perform op).channel.timer = some t ∧ s.channel.timer ≠ some t

/-- How often a timer fires in the course of operations. -/
def firings (t : Timer) : System → List Operation → Nat
  | _, [] => 0
  | s, op :: ops => (s.fires t op).toNat + firings t (s.perform op) ops

/-- In the course of operations there is one of a kind. -/
def Happens (p : System → Operation → Prop) : System → List Operation → Prop
  | _, [] => False
  | s, op :: ops => p s op ∨ Happens p (s.perform op) ops

/-- What a timer does when it fires: it attempts to open the channel for its target, if there is a
credential. -/
structure Attempts (s : System) (op : Operation) (t : Timer) : Prop where
  now_eq : s.clock.now = t.due
  attempt : ∀ c, s.channel.credentials.held = some c → ∃ u,
    t.target.address s.channel.settings c = .ok u ∧
      (s.perform op).waitingFor? s.calls.length = some u ∧
        (s.perform op).channel.state = .connecting ∧
          (s.perform op).channel.target = some t.target ∧
            (s.perform op).channel.counters.attempts = s.channel.counters.attempts + 1
  rest : s.channel.credentials.held = none → (s.perform op).channel.state = .disconnected ∧
    (s.perform op).channel.counters.attempts = s.channel.counters.attempts

variable {s : System} {t : Timer} {op : Operation}

lemma fires_iff : s.fires t op = true ↔
    ∃ i, op = .fire i ∧ s.woken[i]? = some t ∧ s.channel.timer = some t := by
  cases op <;> simp [fires]

namespace AtRest

lemma plan_of_fires (h : s.AtRest) (hf : s.fires t op = true) :
    (s.perform op).channel.plan = (none, s.channel.counters.reconnects) := by
  obtain ⟨i, rfl, hi, ht⟩ := fires_iff.1 hf
  rw [h.perform_fire_of_pending hi ht]
  by_cases hacc : ∃ u, (s.unplan i).channel.Accepts t.target u
  · obtain ⟨u, hacc⟩ := hacc
    rw [settleCall_enter_of_accepts hacc]
    rfl
  · obtain ⟨e, r, hrun⟩ := settleCall_enter_of_not_accepts (not_exists.1 hacc) (some t)
    rw [hrun]
    rfl

lemma plan_of_callsOff (h : s.AtRest) (hop : s.CallsOff op) :
    (s.perform op).channel.plan = (none, s.channel.counters.reconnects) := by
  cases op with
  | connect device vendor =>
    obtain ⟨u, hacc⟩ := hop
    rw [System.perform_connect, settleCall_enter_of_accepts hacc]
    rfl
  | disconnect => rfl
  | shutdown =>
    change s.channel.shutdown.plan = _
    unfold Channel.shutdown
    split_ifs with hs
    · cases ht : s.channel.timer with
      | none => simp [Channel.plan, ht]
      | some u =>
        have hs' : s.channel.shutDown = false := (h.coherent.timer u ht).2.1
        exact absurd (hs'.symm.trans hs) Bool.false_ne_true
    · simp only [Channel.shut, hs]
      rfl
  | _ => exact hop.elim

lemma plan_of_endsSession (h : s.AtRest) {r : Nat} {e : Ending} {g : Nat}
    (hr : s.readers[r]? = some g) (hg : s.channel.reader = some g) :
    ∃ t, s.channel.target = some t ∧ (s.perform (.ending r e)).channel.plan =
      if s.channel.settings.autoReconnect then
        (some ⟨g, s.clock.now + s.channel.settings.reconnectMilliseconds, t⟩,
          s.channel.counters.reconnects + 1)
      else s.channel.plan := by
  obtain ⟨hgen, -, hs, hstate, htarget, ha⟩ := h.coherent.reader g hg
  obtain ⟨t, ht⟩ := Option.isSome_iff_exists.1 htarget
  refine ⟨t, ht, ?_⟩
  change (s.ending r e).channel.plan = _
  simp only [ending, hr]
  exact Channel.plan_finish (Channel.isCurrent_iff.2 ⟨hgen.symm, hs⟩) hstate ht ha

/-- Nothing else has to do with the plan. -/
lemma plan_of_others (h : s.AtRest) (hc : ¬s.CallsOff op) (hf : ∀ t, s.fires t op = false)
    (he : ¬s.EndsSession op) : (s.perform op).channel.plan = s.channel.plan := by
  have hends : ∀ {n}, ((∃ o, op = .outcome n o) ∨ op = .expire n ∨ op = .abandon n) →
      (s.perform op).channel.plan = s.channel.plan := by
    intro n hop
    obtain hs | ⟨k, g, c, r, rs, -, -, hcon, hs⟩ := perform_ends h.resting hop
    · rw [hs]
    · rw [hs]
      exact Prod.ext hcon.timer hcon.reconnects
  cases op with
  | connect device vendor =>
    obtain ⟨e, r, hrun⟩ := settleCall_enter_of_not_accepts (not_exists.1 hc) none
    rw [System.perform_connect, hrun]
    rfl
  | outcome n o => exact hends (.inl ⟨o, rfl⟩)
  | expire n => exact hends (.inr (.inl rfl))
  | abandon n => exact hends (.inr (.inr rfl))
  | disconnect | shutdown => exact absurd trivial hc
  | frame r f =>
    change (s.frame r f).channel.plan = _
    unfold frame
    split
    · rfl
    · exact Channel.plan_deliver ..
  | ending r e =>
    change (s.ending r e).channel.plan = _
    unfold ending
    split
    · rfl
    · next g hr =>
      cases hcur : s.channel.isCurrent g with
      | false => rw [Channel.finish_of_not_isCurrent hcur]
      | true =>
        obtain ⟨rfl, -⟩ := Channel.isCurrent_iff.1 hcur
        exact absurd ⟨r, e, _, rfl, hr, h.coherent.reader_current (List.mem_of_getElem? hr)⟩ he
  | stop r =>
    change (s.stop r).channel.plan = _
    unfold stop
    split
    · rfl
    · split_ifs <;> rfl
  | fire i =>
    cases hi : s.woken[i]? with
    | none => rw [h.perform_fire_of_none hi]
    | some t =>
      have ht : s.channel.timer ≠ some t := by
        intro ht
        exact absurd (fires_iff.2 ⟨i, rfl, hi, ht⟩) (Bool.eq_false_iff.1 (hf t))
      rw [h.perform_fire_of_not_pending hi ht]
  | _ => rfl

lemma arms_iff (h : s.AtRest) : s.Arms op t ↔ s.EndsSession op ∧
    s.channel.settings.autoReconnect = true ∧ s.channel.reader = some t.generation ∧
      s.channel.target = some t.target ∧
        t.due = s.clock.now + s.channel.settings.reconnectMilliseconds := by
  constructor
  · rintro ⟨ht, hne⟩
    by_cases he : s.EndsSession op
    · refine ⟨he, ?_⟩
      obtain ⟨r, e, g, rfl, hr, hg⟩ := he
      obtain ⟨u, hu, hplan⟩ := h.plan_of_endsSession (e := e) hr hg
      cases hauto : s.channel.settings.autoReconnect with
      | false =>
        rw [hauto, if_neg Bool.false_ne_true] at hplan
        exact absurd ((congrArg Prod.fst hplan).symm.trans ht) hne
      | true =>
        rw [hauto, if_pos rfl] at hplan
        obtain rfl := Option.some.inj ((congrArg Prod.fst hplan).symm.trans ht)
        exact ⟨rfl, hg, hu, rfl⟩
    · -- Whatever else is done, the timer is the one from before, or there is none.
      exfalso
      by_cases hc : s.CallsOff op
      · exact absurd ((congrArg Prod.fst (h.plan_of_callsOff hc)).symm.trans ht) (by simp)
      · by_cases hf : ∃ u, s.fires u op = true
        · obtain ⟨u, hf⟩ := hf
          exact absurd ((congrArg Prod.fst (h.plan_of_fires hf)).symm.trans ht) (by simp)
        · have hplan := h.plan_of_others hc (by simpa using hf) he
          exact hne ((congrArg Prod.fst hplan).symm.trans ht)
  · rintro ⟨⟨r, e, g, rfl, hr, hg⟩, hauto, hgen, htarget, hdue⟩
    obtain ⟨u, hu, hplan⟩ := h.plan_of_endsSession (e := e) hr hg
    obtain rfl := Option.some.inj (hu.symm.trans htarget)
    obtain rfl := Option.some.inj (hg.symm.trans hgen)
    rw [hauto, if_pos rfl, ← hdue] at hplan
    refine ⟨congrArg Prod.fst hplan, fun ht => ?_⟩
    obtain ⟨-, -, hd, -⟩ := h.coherent.timer t ht
    obtain ⟨-, -, -, hs, -⟩ := h.coherent.reader _ hg
    exact absurd (hs.symm.trans hd) (by decide)

lemma reconnects_eq_of_arms (h : s.AtRest) (ha : s.Arms op t) :
    (s.perform op).channel.counters.reconnects = s.channel.counters.reconnects + 1 := by
  obtain ⟨⟨r, e, g, rfl, hr, hg⟩, hauto, -⟩ := h.arms_iff.1 ha
  obtain ⟨u, -, hplan⟩ := h.plan_of_endsSession (e := e) hr hg
  rw [hauto, if_pos rfl] at hplan
  exact congrArg Prod.snd hplan

lemma reconnects_eq_of_not_arms (h : s.AtRest) (ha : ∀ t, ¬s.Arms op t) :
    (s.perform op).channel.counters.reconnects = s.channel.counters.reconnects := by
  by_cases hc : s.CallsOff op
  · exact congrArg Prod.snd (h.plan_of_callsOff hc)
  by_cases hf : ∃ u, s.fires u op = true
  · obtain ⟨u, hf⟩ := hf
    exact congrArg Prod.snd (h.plan_of_fires hf)
  by_cases he : s.EndsSession op
  · obtain ⟨r, e, g, rfl, hr, hg⟩ := he
    obtain ⟨u, hu, hplan⟩ := h.plan_of_endsSession (e := e) hr hg
    cases hauto : s.channel.settings.autoReconnect with
    | false =>
      rw [hauto, if_neg Bool.false_ne_true] at hplan
      exact congrArg Prod.snd hplan
    | true =>
      exact absurd (h.arms_iff.2 ⟨⟨r, e, g, rfl, hr, hg⟩, hauto, hg, hu, rfl⟩)
        (ha ⟨g, s.clock.now + s.channel.settings.reconnectMilliseconds, u⟩)
  · exact congrArg Prod.snd (h.plan_of_others hc (by simpa using hf) he)

lemma attempts_of_fires (h : s.AtRest) (hf : s.fires t op = true) : Attempts s op t := by
  obtain ⟨i, rfl, hi, ht⟩ := fires_iff.1 hf
  obtain ⟨-, hs, hd, htarget, -⟩ := h.coherent.timer t ht
  obtain ⟨hdevice, haddress⟩ := h.usable.target _ htarget
  have hop := h.perform_fire_of_pending hi ht
  have hfree : s.channel.attempting = false := by
    rw [Bool.eq_false_iff]
    intro ha
    exact absurd ((h.free ha).2.symm.trans ht) (by simp)
  refine ⟨?_, ?_, ?_⟩
  · exact Nat.le_antisymm (h.now_le t ht) (h.due_le t (List.mem_of_getElem? hi))
  · intro c hc
    obtain ⟨u, hu⟩ := (ChannelSettings.hasAddress_iff t.target c).1 haddress
    have hacc : (s.unplan i).channel.Accepts t.target u :=
      ⟨hdevice, hs, fun hcon => absurd (hcon.1.symm.trans hd) (by decide), hfree, c, hc, hu⟩
    rw [hop, settleCall_enter_of_accepts hacc]
    exact ⟨u, hu, by simp [waitingFor?, unplan], rfl, rfl, rfl⟩
  · intro hc
    have hacc : ∀ u, ¬(s.unplan i).channel.Accepts t.target u := by
      rintro u ⟨-, -, -, -, c, hc', -⟩
      exact absurd (hc.symm.trans hc') (by simp)
    obtain ⟨e, r, hrun⟩ := settleCall_enter_of_not_accepts hacc (some t)
    rw [hop, hrun]
    exact ⟨hd, rfl⟩

/-- A timer that was pending and is not any more is over for good. -/
lemma over_of_not_pending (h : s.AtRest) (ht : s.channel.timer = some t)
    (hn : (s.perform op).channel.timer ≠ some t) : (s.perform op).skeleton.Over t := by
  have hkeep : ∀ a b : Skeleton, a.Move b →
      a.Coherent ∧ (a.timer = some t ∨ a.Over t) → b.Coherent ∧ (b.timer = some t ∨ b.Over t) := by
    rintro a b m ⟨hc, ht | ho⟩
    · exact ⟨hc.move m, Skeleton.pending_move m hc ht⟩
    · exact ⟨hc.move m, .inr (ho.move m hc)⟩
  exact (skeleton_run s hkeep _ ⟨h.coherent, .inl ht⟩).2.resolve_left hn

lemma over_perform (h : s.AtRest) (ho : s.skeleton.Over t) : (s.perform op).skeleton.Over t := by
  have hkeep : ∀ a b : Skeleton, a.Move b → a.Coherent ∧ a.Over t → b.Coherent ∧ b.Over t := by
    rintro a b m ⟨hc, ho⟩
    exact ⟨hc.move m, ho.move m hc⟩
  exact (skeleton_run s hkeep _ ⟨h.coherent, ho⟩).2

/-- Nothing comes any more of a timer that is over. -/
lemma of_over (h : s.AtRest) (ho : s.skeleton.Over t) (ops : List Operation) :
    firings t s ops = 0 ∧
      ¬Happens (fun x op => x.channel.timer = some t ∧ x.CallsOff op) s ops := by
  induction ops generalizing s with
  | nil => exact ⟨rfl, id⟩
  | cons op ops ih =>
    obtain ⟨hf, hc⟩ := ih (h.perform op) (h.over_perform ho)
    have hne : s.channel.timer ≠ some t := ho.timer_ne h.coherent
    have hfire : s.fires t op = false := by
      rw [Bool.eq_false_iff]
      intro hfire
      obtain ⟨-, -, -, ht⟩ := fires_iff.1 hfire
      exact hne ht
    refine ⟨?_, fun hh => hh.elim (fun hh => hne hh.1) hc⟩
    simp only [firings, hfire, hf, Bool.toNat_false]

end AtRest

/-- The course of a pending timer. -/
structure FiresOnce (s : System) (t : Timer) (ops : List Operation) : Prop where
  atMostOnce : firings t s ops ≤ 1
  calledOff : Happens (fun x op => x.channel.timer = some t ∧ x.CallsOff op) s ops →
    firings t s ops = 0
  otherwise : t.due < (s.performAll ops).clock.now →
    ¬Happens (fun x op => x.channel.timer = some t ∧ x.CallsOff op) s ops → firings t s ops = 1

lemma AtRest.timer_kept (h : s.AtRest) (ht : s.channel.timer = some t) :
    (s.perform op).channel.timer = some t ↔ s.fires t op = false ∧ ¬s.CallsOff op := by
  constructor
  · intro hk
    constructor
    · rw [Bool.eq_false_iff]
      intro hf
      exact absurd ((congrArg Prod.fst (h.plan_of_fires hf)).symm.trans hk) (by simp)
    · intro hc
      exact absurd ((congrArg Prod.fst (h.plan_of_callsOff hc)).symm.trans hk) (by simp)
  · rintro ⟨hf, hc⟩
    have hothers : ∀ u, s.fires u op = false := by
      intro u
      rw [Bool.eq_false_iff]
      intro hu
      obtain ⟨-, -, -, ht'⟩ := fires_iff.1 hu
      obtain rfl := Option.some.inj (ht.symm.trans ht')
      exact absurd (hf.symm.trans hu) Bool.false_ne_true
    have hends : ¬s.EndsSession op := by
      rintro ⟨-, -, g, -, -, hg⟩
      obtain ⟨-, -, hd, -⟩ := h.coherent.timer t ht
      obtain ⟨-, -, -, hs, -⟩ := h.coherent.reader g hg
      exact absurd (hs.symm.trans hd) (by decide)
    exact (congrArg Prod.fst (h.plan_of_others hc hothers hends)).trans ht

lemma AtRest.firesOnce (h : s.AtRest) (ht : s.channel.timer = some t) (ops : List Operation) :
    FiresOnce s t ops := by
  induction ops generalizing s with
  | nil =>
    refine ⟨Nat.zero_le _, fun hh => hh.elim, fun hlt => ?_⟩
    exact absurd hlt (Nat.not_lt.2 (h.now_le t ht))
  | cons op ops ih =>
    by_cases hk : (s.perform op).channel.timer = some t
    · obtain ⟨hf, hc⟩ := (h.timer_kept ht).1 hk
      obtain ⟨hle, hoff, hone⟩ := ih (h.perform op) hk
      have hfirings : firings t s (op :: ops) = firings t (s.perform op) ops := by
        simp only [firings, hf, Bool.toNat_false, Nat.zero_add]
      rw [← hfirings] at hle hoff hone
      refine ⟨hle, ?_, fun hlt hn => hone hlt fun hh => hn (.inr hh)⟩
      exact fun hh => hoff (hh.resolve_left fun hh => hc hh.2)
    · -- This is the end of the timer: it has fired, or is called off.
      obtain ⟨hzero, hno⟩ := (h.perform op).of_over (h.over_of_not_pending ht hk) ops
      by_cases hf : s.fires t op = true
      · have hfirings : firings t s (op :: ops) = 1 := by
          simp only [firings, hf, hzero, Bool.toNat_true]
        obtain ⟨i, rfl, -⟩ := fires_iff.1 hf
        exact ⟨Nat.le_of_eq hfirings, fun hh => (hh.elim (fun hh => hh.2) hno).elim,
          fun _ _ => hfirings⟩
      · rw [Bool.not_eq_true] at hf
        have hfirings : firings t s (op :: ops) = 0 := by
          simp only [firings, hf, hzero, Bool.toNat_false]
        have hc : s.CallsOff op := by
          by_contra hc
          exact hk ((h.timer_kept ht).2 ⟨hf, hc⟩)
        exact ⟨by rw [hfirings]; exact Nat.zero_le 1, fun _ => hfirings,
          fun _ hn => absurd (.inl ⟨ht, hc⟩) hn⟩

lemma ready_of_wait {ms : Nat} (ht : s.channel.timer = some t)
    (hdue : (s.perform (.wait ms)).clock.now = t.due) :
    ∃ i, (s.perform (.wait ms)).fires t (.fire i) = true := by
  have hmem : t ∈ (s.perform (.wait ms)).woken := by
    have hle : t.due ≤ s.clock.now + s.idle ms := Nat.le_of_eq hdue.symm
    change t ∈ (s.pass (s.idle ms)).woken
    by_cases hw : t ∈ s.woken <;> simp [pass, ht, hle, hw]
  obtain ⟨i, hi⟩ := List.mem_iff_getElem?.1 hmem
  exact ⟨i, fires_iff.2 ⟨i, rfl, hi, ht⟩⟩

/-- While a session lasts its target stays the one that was asked for. -/
lemma AtRest.target_of_session (h : s.AtRest) {n : Nat} {o : Outcome} {k : Call} {g : Nat}
    (hk : s.calls[n]? = some k) (hg : (s.perform (.outcome n o)).channel.reader = some g)
    (hne : s.channel.reader ≠ some g) (later : List Operation)
    (ha : ((s.perform (.outcome n o)).performAll later).Arms op t) (ht : t.generation = g) :
    t.target = k.target := by
  obtain hs | ⟨k', g', c, r, rs, hk', hg', hcon, hs⟩ := perform_ends h.resting (.inl ⟨o, rfl⟩)
  · rw [hs] at hg
    exact absurd hg hne
  rw [hs] at hg
  obtain hr | ⟨hr, hcur⟩ := hcon.reader
  · exact absurd (hr.symm.trans hg) hne
  obtain rfl := Option.some.inj (hr.symm.trans hg)
  obtain rfl := Option.some.inj (hk.symm.trans hk')
  obtain ⟨hgen, -⟩ := Channel.isCurrent_iff.1 hcur
  have hpending : k.phase.generation? = some s.channel.generation := by rw [hgen, hg']
  obtain ⟨-, -, htarget, -⟩ := h.coherent.pending k (List.mem_of_getElem? hk) hpending
  -- As long as no newer generation begins, the target stays as it is.
  have hkeep : ∀ a b : Skeleton, a.Move b →
      g' ≤ a.generation ∧ (a.generation = g' → a.target = some k.target) →
      g' ≤ b.generation ∧ (b.generation = g' → b.target = some k.target) := by
    rintro a b m ⟨hle, ha⟩
    refine ⟨Nat.le_trans hle m.generation_le, fun hb => ?_⟩
    have hab : a.generation = g' := Nat.le_antisymm (hb ▸ m.generation_le) hle
    rw [m.target_eq (hb.trans hab.symm)]
    exact ha hab
  have hlater := skeleton_performAll hkeep _ later
    (skeleton_run s hkeep (s.inputs (.outcome n o)) ⟨Nat.le_of_eq hgen.symm, fun _ => htarget⟩)
  have hx := (h.perform (.outcome n o)).performAll later
  obtain ⟨-, -, hreader, htt, -⟩ := hx.arms_iff.1 ha
  have hnow := (hx.coherent.reader _ hreader).1
  exact Option.some.inj (htt.symm.trans (hlater.2 (hnow.symm.trans ht)))

/-- How a lost channel is opened again. -/
structure ReconnectPolicy (s : System) : Prop where
  /-- A timer is set exactly when the open channel ends under its reader. -/
  armed : ∀ op, (∃ t, s.Arms op t) ↔ s.EndsSession op ∧ s.channel.settings.autoReconnect = true
  due : ∀ op t, s.Arms op t →
    t.due = s.clock.now + s.channel.settings.reconnectMilliseconds
  counted : ∀ op t, s.Arms op t →
    (s.perform op).channel.counters.reconnects = s.channel.counters.reconnects + 1
  notCounted : ∀ op, (∀ t, ¬s.Arms op t) →
    (s.perform op).channel.counters.reconnects = s.channel.counters.reconnects
  /-- The target of a timer is that of the call which has opened the session. -/
  target : ∀ n o k g, s.calls[n]? = some k →
    (s.perform (.outcome n o)).channel.reader = some g → s.channel.reader ≠ some g →
      ∀ later op t, ((s.perform (.outcome n o)).performAll later).Arms op t →
        t.generation = g → t.target = k.target
  /-- Of all timers that run only the pending one could still do something. -/
  single : s.woken.Nodup ∧
    ∀ t ∈ s.woken, (s.channel.wake t).2.isSome → s.channel.timer = some t
  /-- Whoever waits until it is due finds it ready to fire. -/
  ready : ∀ t, s.channel.timer = some t → ∀ ms, (s.perform (.wait ms)).clock.now = t.due →
    ∃ i, (s.perform (.wait ms)).fires t (.fire i) = true
  kept : ∀ t, s.channel.timer = some t → ∀ op,
    (s.perform op).channel.timer = some t ↔ s.fires t op = false ∧ ¬s.CallsOff op
  once : ∀ t, s.channel.timer = some t → ∀ ops, FiresOnce s t ops
  attempts : ∀ t op, s.fires t op = true → Attempts s op t

lemma AtRest.reconnectPolicy (h : s.AtRest) : s.ReconnectPolicy where
  armed op := by
    constructor
    · rintro ⟨t, ht⟩
      obtain ⟨he, hauto, -⟩ := h.arms_iff.1 ht
      exact ⟨he, hauto⟩
    · rintro ⟨⟨r, e, g, rfl, hr, hg⟩, hauto⟩
      obtain ⟨t, ht, -⟩ := h.plan_of_endsSession (e := e) hr hg
      exact ⟨⟨g, s.clock.now + s.channel.settings.reconnectMilliseconds, t⟩,
        h.arms_iff.2 ⟨⟨r, e, g, rfl, hr, hg⟩, hauto, hg, ht, rfl⟩⟩
  due op t ht := by
    obtain ⟨-, -, -, -, hdue⟩ := h.arms_iff.1 ht
    exact hdue
  counted _ _ ht := h.reconnects_eq_of_arms ht
  notCounted _ ht := h.reconnects_eq_of_not_arms ht
  target _ _ _ _ hk hg hne later _ _ ha ht := h.target_of_session hk hg hne later ha ht
  single := by
    refine ⟨h.coherent.woken_nodup, fun t ht hw => ?_⟩
    by_contra hne
    have hg : s.channel.isCurrent t.generation = false := by
      simp only [Channel.isCurrent, Bool.and_eq_false_iff, beq_eq_false_iff_ne]
      exact .inl fun hg => hne (h.coherent.woken t ht hg.symm)
    simp [Channel.wake_of_not_isCurrent hg] at hw
  ready _ ht _ hdue := ready_of_wait ht hdue
  kept _ ht _ := h.timer_kept ht
  once _ ht ops := h.firesOnce ht ops
  attempts _ _ hf := h.attempts_of_fires hf

/-- In every run of whole operations lost channels are opened again by this policy. -/
theorem reconnectPolicy_run (settings : ChannelSettings) (capacity : Nat)
    (credentials : CredentialSlot) (clock : Channel.Clock) (ops : List Operation) :
    ((new (.new settings capacity credentials) clock).performAll ops).ReconnectPolicy :=
  ((atRest_new settings capacity credentials clock).performAll ops).reconnectPolicy

/-- Meanwhile a call without a device is refused, and so does not put the timer off. -/
example : firings ⟨1, 5000, ⟨⟨"r1"⟩, "generic"⟩⟩ lost
    [.wait 3000, .connect ⟨""⟩ "", .wait 9000, .fire 0, .fire 0] = 1 := by decide +kernel

end System
end LiveTelemetry
