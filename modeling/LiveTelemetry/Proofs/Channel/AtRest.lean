import LiveTelemetry.Proofs.Channel.Uninterrupted

/-!
Systems between whole operations. Main statement: after any of them all calls wait for a handshake
or are over, no moment at which the pending timer was due has been missed, and there is none while
an attempt runs.
-/
namespace LiveTelemetry

namespace Skeleton

/-- Attempts can be made for all targets that attempts may still come for. -/
structure Usable (a : Skeleton) : Prop where
  calls : ∀ k ∈ a.calls, k.mayBegin a.settings = true →
    k.target.device.isBlank = false ∧ a.settings.hasAddress = true
  target : ∀ t, a.target = some t → t.device.isBlank = false ∧ a.settings.hasAddress = true

namespace Usable

variable {a b : Skeleton}

lemma enter (h : a.Usable) (t : Target) (x : Option Timer) :
    Usable { a with calls := a.calls ++ [⟨t, .entered, x⟩] } where
  calls k hk hb := by
    obtain hk | hk := List.mem_append.1 hk
    · exact h.calls k hk hb
    · rw [List.mem_singleton.1 hk] at hb ⊢
      simpa [Call.mayBegin] using hb
  target := h.target

lemma setPhase (h : a.Usable) {n : Nat} {k : Call} {p : Phase} (hk : a.calls[n]? = some k)
    (hb : Call.mayBegin a.settings { k with phase := p } = true → k.mayBegin a.settings = true) :
    (a.setPhase n p).Usable where
  calls k' hk' hb' := by
    obtain rfl | ⟨m, -, hm⟩ := mem_setPhase hk hk'
    · exact h.calls k (List.mem_of_getElem? hk) (hb hb')
    · exact h.calls k' (List.mem_of_getElem? hm) hb'
  target := h.target

lemma move (m : a.Move b) (h : a.Usable) : b.Usable := by
  cases m with
  | request t => exact h.enter t none
  | wake => exact { h.enter _ _ with }
  | advance hk _ _ _ hb => exact h.setPhase hk hb
  | claim hk hp _ =>
    exact { h.setPhase (p := .claimed) hk (by simp [Call.mayBegin, hp]) with }
  | start _ hk hp _ =>
    refine { h.setPhase (p := .opening _ _ _) hk (by simp [Call.mayBegin]) with target := ?_ }
    rintro t ht
    obtain rfl := Option.some.inj ht
    exact h.calls _ (List.mem_of_getElem? hk) (by simp [Call.mayBegin, hp])
  | opened hk | failed _ hk | release hk =>
    exact { h.setPhase (p := _) hk (by simp [Call.mayBegin]) with }
  | _ => exact ⟨h.calls, h.target⟩

end Usable
end Skeleton

namespace System

structure AtRest (s : System) : Prop where
  coherent : s.skeleton.Coherent
  usable : s.skeleton.Usable
  resting : ∀ k ∈ s.calls, k.phase.isResting = true
  free : s.channel.attempting = true → s.channel.reader = none ∧ s.channel.timer = none
  now_le : ∀ t, s.channel.timer = some t → s.clock.now ≤ t.due
  due_le : ∀ t ∈ s.woken, t.due ≤ s.clock.now

variable {s : System} {t : Timer}

lemma idle_le_of_mem (ms : Nat) {d : Nat} (h : d ∈ s.deadlines) :
    s.idle ms ≤ d - s.clock.now := by
  have hfold : ∀ (l : List Nat) (m : Nat),
      l.foldl (fun m d => min m (d - s.clock.now)) m ≤ m ∧
        ∀ d ∈ l, l.foldl (fun m d => min m (d - s.clock.now)) m ≤ d - s.clock.now := by
    intro l
    induction l with
    | nil => simp
    | cons e l ih =>
      intro m
      obtain ⟨hm, hl⟩ := ih (min m (e - s.clock.now))
      refine ⟨Nat.le_trans hm (Nat.min_le_left _ _), ?_⟩
      intro d hd
      obtain rfl | hd := List.mem_cons.1 hd
      · exact Nat.le_trans hm (Nat.min_le_right _ _)
      · exact hl d hd
  exact (hfold _ _).2 d h

/-- The pending timer, which has woken, takes itself out of the plan. -/
def unplan (i : Nat) (s : System) : System :=
  { s with channel := { s.channel with timer := none }, woken := s.woken.eraseIdx i }

/-- A timer that is pending passes its look at the channel. -/
lemma wake_of_pending (h : s.skeleton.Coherent) {i : Nat} (hi : s.woken[i]? = some t)
    (ht : s.channel.timer = some t) : s.wake i = (s.unplan i).enter t.target (some t) := by
  obtain ⟨hg, hs, -, -, ha⟩ := h.timer t ht
  have hc : s.channel.isCurrent t.generation = true := Channel.isCurrent_iff.2 ⟨hg.symm, hs⟩
  have ha' : s.channel.reconnectAllowed = true := ha
  simp only [wake, hi, Channel.wake, hc, ha', Bool.and_self, if_true, unplan]

/-- A timer that has woken and is not pending does nothing any more. -/
lemma wake_of_not_pending (h : s.skeleton.Coherent) {i : Nat} (hi : s.woken[i]? = some t)
    (ht : s.channel.timer ≠ some t) : s.wake i = { s with woken := s.woken.eraseIdx i } := by
  have hg : t.generation ≠ s.channel.generation := fun hg =>
    ht (h.woken t (List.mem_of_getElem? hi) hg)
  have hc : s.channel.isCurrent t.generation = false := by
    simp only [Channel.isCurrent, beq_eq_false_iff_ne.2 (Ne.symm hg), Bool.false_and]
  simp only [wake, hi, Channel.wake_of_not_isCurrent hc]

namespace AtRest

lemma perform_fire_of_pending (h : s.AtRest) {i : Nat} (hi : s.woken[i]? = some t)
    (ht : s.channel.timer = some t) : s.perform (.fire i) =
      ((s.unplan i).enter t.target (some t)).settleCall (s.unplan i).calls.length := by
  rw [System.perform_fire, wake_of_pending h.coherent hi ht]
  rfl

lemma perform_fire_of_not_pending (h : s.AtRest) {i : Nat} (hi : s.woken[i]? = some t)
    (ht : s.channel.timer ≠ some t) :
    s.perform (.fire i) = { s with woken := s.woken.eraseIdx i } := by
  rw [System.perform_fire, wake_of_not_pending h.coherent hi ht]
  exact settleCall_of_isResting h.resting

lemma perform_fire_of_none (h : s.AtRest) {i : Nat} (hi : s.woken[i]? = none) :
    s.perform (.fire i) = s := by
  rw [System.perform_fire]
  simp only [wake, hi]
  exact settleCall_of_isResting h.resting

lemma of_perform (h : s.AtRest) (op : Operation)
    (hc : ∀ k ∈ (s.perform op).calls, k ∈ s.calls ∨ k.phase.isResting = true)
    (hf : (s.perform op).channel.attempting = true →
      (s.perform op).channel.reader = none ∧ (s.perform op).channel.timer = none)
    (ht : ∀ t, (s.perform op).channel.timer = some t → (s.perform op).clock.now ≤ t.due)
    (hw : ∀ t ∈ (s.perform op).woken, t.due ≤ (s.perform op).clock.now) :
    (s.perform op).AtRest where
  coherent := skeleton_run s (fun _ _ => Skeleton.Coherent.move) _ h.coherent
  usable := skeleton_run s (fun _ _ => Skeleton.Usable.move) _ h.usable
  resting k hk := (hc k hk).elim (h.resting k) id
  free := hf
  now_le := ht
  due_le := hw

/-- Of the channel only such parts change as decide nothing. -/
lemma of_control (h : s.AtRest) (op : Operation)
    (hc : (s.perform op).channel.control = s.channel.control)
    (hk : ∀ k ∈ (s.perform op).calls, k ∈ s.calls ∨ k.phase.isResting = true)
    (hn : (s.perform op).clock = s.clock) (hw : ∀ t ∈ (s.perform op).woken, t ∈ s.woken) :
    (s.perform op).AtRest := by
  have ha : (s.perform op).channel.attempting = s.channel.attempting :=
    congrArg Control.attempting hc
  have hr : (s.perform op).channel.reader = s.channel.reader := congrArg Control.reader hc
  have ht : (s.perform op).channel.timer = s.channel.timer := congrArg Control.timer hc
  refine h.of_perform op hk ?_ ?_ ?_
  · rw [ha, hr, ht]
    exact h.free
  · rw [ht, hn]
    exact h.now_le
  · rw [hn]
    exact fun t hmem => h.due_le t (hw t hmem)

/-- A call was made that nothing interrupted, by a caller or by a timer. -/
lemma of_enter (h : s.AtRest) (op : Operation) (t : Target) (x : Option Timer) {y : System}
    (hop : s.perform op = (y.enter t x).settleCall y.calls.length)
    (hcalls : y.calls = s.calls) (hclock : y.clock = s.clock) (hw : ∀ t ∈ y.woken, t ∈ s.woken)
    (hf : y.channel.attempting = true → y.channel.reader = none ∧ y.channel.timer = none)
    (ht : ∀ t, y.channel.timer = some t → s.channel.timer = some t) : (s.perform op).AtRest := by
  have hmem : ∀ {p : Phase}, p.isResting = true →
      ∀ k ∈ y.calls ++ [⟨t, p, x⟩], k ∈ s.calls ∨ k.phase.isResting = true := by
    intro p hp k hk
    rw [hcalls] at hk
    refine (List.mem_append.1 hk).imp_right fun hk => ?_
    rw [List.mem_singleton.1 hk]
    exact hp
  have hdue : ∀ t ∈ y.woken, t.due ≤ y.clock.now := fun t hmem => by
    rw [hclock]
    exact h.due_le t (hw t hmem)
  by_cases hacc : ∃ u, y.channel.Accepts t u
  · obtain ⟨u, hacc⟩ := hacc
    have hrun := hop.trans (settleCall_enter_of_accepts hacc x)
    refine h.of_perform op ?_ ?_ ?_ ?_ <;> rw [hrun]
    · exact hmem rfl
    · exact fun _ => ⟨rfl, rfl⟩
    · exact fun t ht => by cases ht
    · exact hdue
  · obtain ⟨e, r, hrun⟩ := settleCall_enter_of_not_accepts (not_exists.1 hacc) x
    replace hrun := hop.trans hrun
    refine h.of_perform op ?_ ?_ ?_ ?_ <;> rw [hrun]
    · exact hmem rfl
    · exact hf
    · intro u hu
      show y.clock.now ≤ u.due
      rw [hclock]
      exact h.now_le u (ht u hu)
    · exact hdue

lemma perform_connect (h : s.AtRest) (device : DeviceId) (vendor : String) :
    (s.perform (.connect device vendor)).AtRest :=
  h.of_enter (y := s) _ (.ofRequest s.channel.settings device vendor) none rfl rfl rfl
    (fun _ => id) h.free (fun _ => id)

lemma perform_fire (h : s.AtRest) (i : Nat) : (s.perform (.fire i)).AtRest := by
  cases hi : s.woken[i]? with
  | none => rw [h.perform_fire_of_none hi]; exact h
  | some t =>
    by_cases ht : s.channel.timer = some t
    · refine h.of_enter _ _ _ (h.perform_fire_of_pending hi ht) rfl rfl
        (fun _ => List.mem_of_mem_eraseIdx) ?_ (fun _ hu => by cases hu)
      intro ha
      exact ⟨(h.free ha).1, rfl⟩
    · have hop := h.perform_fire_of_not_pending hi ht
      refine h.of_control _ ?_ ?_ ?_ ?_ <;> rw [hop]
      · exact fun _ => .inl
      · exact fun _ => List.mem_of_mem_eraseIdx

lemma perform_end (h : s.AtRest) {n : Nat} {op : Operation}
    (hop : (∃ o, op = .outcome n o) ∨ op = .expire n ∨ op = .abandon n) :
    (s.perform op).AtRest := by
  obtain hs | ⟨k, g, c, r, rs, hk, -, hc, hs⟩ := perform_ends h.resting hop
  · rw [hs]
    exact h
  · refine h.of_perform op ?_ ?_ ?_ ?_ <;> rw [hs]
    · intro k' hk'
      obtain ⟨m, hm⟩ := List.mem_iff_getElem?.1 hk'
      by_cases hmn : n = m
      · subst m
        obtain rfl := Option.some.inj ((getElem?_setPhase_self (.finished r) hk).symm.trans hm)
        exact .inr rfl
      · exact .inl (List.mem_of_getElem? ((getElem?_setPhase_ne _ hmn).symm.trans hm))
    · exact fun ha => absurd ha Bool.false_ne_true
    · intro t ht
      exact h.now_le t (hc.timer.symm.trans ht)
    · exact h.due_le

lemma perform_ending (h : s.AtRest) (r : Nat) (e : Ending) :
    (s.perform (.ending r e)).AtRest := by
  have hop : s.perform (.ending r e) = s.ending r e := rfl
  cases hr : s.readers[r]? with
  | none =>
    rw [hop]
    simp only [ending, hr]
    exact h
  | some g =>
    simp only [ending, hr] at hop
    cases hc : s.channel.isCurrent g with
    | false =>
      rw [Channel.finish_of_not_isCurrent hc] at hop
      refine h.of_control _ ?_ ?_ ?_ ?_ <;> rw [hop]
      · exact fun _ => .inl
      · exact fun _ => id
    | true =>
      have hg : s.channel.generation = g := (Channel.isCurrent_iff.1 hc).1
      have hctl : (s.channel.finish s.clock.now g e).control = _ := Channel.control_finish hc
      have hread : s.channel.reader = some g := by
        subst hg
        exact h.coherent.reader_current (List.mem_of_getElem? hr)
      refine h.of_perform _ ?_ ?_ ?_ ?_ <;> rw [hop]
      · exact fun _ => .inl
      · intro ha
        have ha' : s.channel.attempting = true := (congrArg Control.attempting hctl).symm.trans ha
        have := (h.free ha').1
        rw [hread] at this
        contradiction
      · intro t ht
        have ht' : s.channel.timerAfter s.clock.now g = some t :=
          (congrArg Control.timer hctl).symm.trans ht
        unfold Channel.timerAfter at ht'
        split_ifs at ht'
        · split at ht'
          · exact h.now_le t ht'
          · obtain rfl := Option.some.inj ht'
            exact Nat.le_add_right _ _
        · exact h.now_le t ht'
      · exact h.due_le

lemma perform_wait (h : s.AtRest) (ms : Nat) : (s.perform (.wait ms)).AtRest := by
  have hle : ∀ t, s.channel.timer = some t → s.clock.now + s.idle ms ≤ t.due := by
    intro t ht
    have hmem : t.due ∈ s.deadlines := List.mem_append_left _ (by simp [ht])
    have hidle := idle_le_of_mem ms hmem
    have hnow := h.now_le t ht
    omega
  refine h.of_perform _ (fun _ => .inl) h.free hle ?_
  intro t ht
  obtain ht | ht := List.mem_append.1 ht
  · exact Nat.le_trans (h.due_le t ht) (Nat.le_add_right _ _)
  · cases hset : s.channel.timer with
    | none => simp [hset] at ht
    | some u =>
      simp only [hset] at ht
      split_ifs at ht with hd
      · rw [List.mem_singleton.1 ht]
        simp only [Bool.and_eq_true, decide_eq_true_eq] at hd
        exact hd.1
      · cases ht

lemma perform_shutdown (h : s.AtRest) : (s.perform .shutdown).AtRest := by
  have hop : s.perform .shutdown = { s with channel := s.channel.shutdown } := rfl
  cases hs : s.channel.shutDown with
  | true =>
    rw [hop, Channel.shutdown, if_pos hs]
    exact h
  | false =>
    have hc : s.channel.shutdown = s.channel.shut.tidy := by
      rw [Channel.shutdown, hs, if_neg Bool.false_ne_true]
    have hshut : s.channel.shut.reader = none ∧ s.channel.shut.timer = none := by
      rw [Channel.shut, hs, if_neg Bool.false_ne_true]
      exact ⟨rfl, rfl⟩
    rw [hc] at hop
    refine h.of_perform _ ?_ ?_ ?_ ?_ <;> rw [hop]
    · exact fun _ => .inl
    · exact fun _ => hshut
    · exact fun t ht => absurd (hshut.2.symm.trans ht) (by simp)
    · exact h.due_le

lemma perform_frame (h : s.AtRest) (r : Nat) (f : Frame) : (s.perform (.frame r f)).AtRest := by
  have hop : s.perform (.frame r f) = s.frame r f := rfl
  cases hr : s.readers[r]? with
  | none =>
    rw [hop]
    simp only [frame, hr]
    exact h
  | some g =>
    simp only [frame, hr] at hop
    refine h.of_control _ ?_ ?_ ?_ ?_ <;> rw [hop]
    · exact s.channel.control_deliver s.clock g f
    · exact fun _ => .inl
    · exact fun _ => id

lemma perform_stop (h : s.AtRest) (r : Nat) : (s.perform (.stop r)).AtRest := by
  have hop : s.perform (.stop r) = s.stop r := rfl
  have hstop : s.stop r = s ∨ s.stop r = { s with readers := s.readers.eraseIdx r } := by
    unfold stop
    split
    · exact .inl rfl
    · split_ifs
      · exact .inl rfl
      · exact .inr rfl
  obtain hs | hs := hstop
  · rw [hop, hs]
    exact h
  · refine h.of_control _ ?_ ?_ ?_ ?_ <;> rw [hop, hs]
    · exact fun _ => .inl
    · exact fun _ => id

/-- Every operation leaves a system at rest. -/
theorem perform (h : s.AtRest) (op : Operation) : (s.perform op).AtRest := by
  cases op with
  | connect device vendor => exact h.perform_connect device vendor
  | outcome n o => exact h.perform_end (.inl ⟨o, rfl⟩)
  | expire n => exact h.perform_end (.inr (.inl rfl))
  | abandon n => exact h.perform_end (.inr (.inr rfl))
  | disconnect =>
    exact h.of_perform _ (fun _ => .inl) (fun _ => ⟨rfl, rfl⟩) (fun _ ht => by cases ht) h.due_le
  | shutdown => exact h.perform_shutdown
  | frame r f => exact h.perform_frame r f
  | ending r e => exact h.perform_ending r e
  | stop r => exact h.perform_stop r
  | fire i => exact h.perform_fire i
  | wait ms => exact h.perform_wait ms
  | credential | clearStore | subscribe | unsubscribe =>
    exact h.of_control _ rfl (fun _ => .inl) rfl (fun _ => id)

end AtRest

/-- What every move keeps is kept by all operations. -/
lemma skeleton_performAll {P : Skeleton → Prop} (hP : ∀ a b, Skeleton.Move a b → P a → P b)
    (s : System) (ops : List Operation) (h : P s.skeleton) : P (s.performAll ops).skeleton := by
  induction ops generalizing s with
  | nil => exact h
  | cons op ops ih => exact ih _ (skeleton_run s hP (s.inputs op) h)

lemma AtRest.performAll (h : s.AtRest) (ops : List Operation) : (s.performAll ops).AtRest := by
  induction ops generalizing s with
  | nil => exact h
  | cons op ops ih => exact ih (h.perform op)

lemma atRest_new (settings : ChannelSettings) (capacity : Nat) (credentials : CredentialSlot)
    (clock : Channel.Clock) : (new (.new settings capacity credentials) clock).AtRest := by
  refine ⟨coherent_new .., ⟨?_, ?_⟩, ?_, ?_, ?_, ?_⟩ <;>
    simp [new, Channel.new, skeleton, Channel.control]

/-- In every run attempts come only for targets for which they can be made. -/
lemma usable_run (settings : ChannelSettings) (capacity : Nat) (credentials : CredentialSlot)
    (clock : Channel.Clock) (inputs : List Input) :
    ((new (.new settings capacity credentials) clock).run inputs).skeleton.Usable :=
  skeleton_run _ (fun _ _ => Skeleton.Usable.move) inputs (atRest_new ..).usable

end System
end LiveTelemetry
