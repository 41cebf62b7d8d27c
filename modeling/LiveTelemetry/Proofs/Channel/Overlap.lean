import LiveTelemetry.Proofs.Channel.AtRest
import LiveTelemetry.Proofs.Channel.FirstCall
import LiveTelemetry.Proofs.Channel.Settlement
import LiveTelemetry.Proofs.Channel.Superseded

/-!
Calls for one target that overlap. Main statement: the channel that the first attempt among them has
opened is kept for good, and every other call comes to an end without a channel of its own, exactly
if no call stands between its look at the channel and the begin of its attempt.
-/
namespace LiveTelemetry

/-- Whether a call has passed its look at the channel, and has not begun its attempt. -/
def Phase.isCommitted : Phase → Bool
  | checked | claimed | prepared _ => true
  | entered | opening .. | settled _ | finished _ => false

/-- A call takes no part in an attempt: it has not begun one, or it is over with a result. -/
def Phase.IsApart (p : Phase) : Prop :=
  p = .entered ∨ p.isCommitted = true ∨ ∃ b, p = .finished (some b)

lemma Phase.IsApart.generation_eq_none {p : Phase} (h : p.IsApart) : p.generation? = none := by
  obtain rfl | hp | ⟨b, rfl⟩ := h
  · rfl
  · cases p <;> first | rfl | cases hp
  · rfl

lemma Phase.IsApart.eq_of_holds {p : Phase} (h : p.IsApart) (hh : p.holds = true) :
    p = .claimed ∨ ∃ u, p = .prepared u := by
  cases p with
  | claimed => exact .inl rfl
  | prepared u => exact .inr ⟨u, rfl⟩
  | opening | settled => obtain hp | hp | ⟨b, hp⟩ := h <;> cases hp
  | entered | checked | finished => cases hh

namespace Channel

variable {t : Target} {c : Channel}

/-- While the channel is open to the target of a call that takes no part in an attempt, the call is
over with its next step, or stays committed, unless it begins an attempt. -/
lemma proceed_of_isApart (h : c.Present t) (hs : ∃ u, c.Supplies t u) (now : Nat) {p : Phase}
    (hp : p.IsApart) (hn : ∀ u, p ≠ .prepared u) : ∃ b q,
      c.proceed now t p = ({ c with attempting := b }, q) ∧ q.IsApart ∧
        (p.isCommitted = false → q.isCommitted = false) := by
  cases p with
  | entered =>
    exact ⟨c.attempting, _, check_of_present h, .inr (.inr ⟨true, rfl⟩), fun _ => rfl⟩
  | checked =>
    simp only [proceed, claim]
    split_ifs
    · exact ⟨c.attempting, _, rfl, .inr (.inr ⟨false, rfl⟩), fun _ => rfl⟩
    · exact ⟨true, _, rfl, .inr (.inl rfl), fun hf => by cases hf⟩
  | claimed =>
    obtain ⟨u, k, hk, hu⟩ := hs
    refine ⟨c.attempting, .prepared u, ?_, .inr (.inl rfl), fun hf => by cases hf⟩
    simp only [proceed, prepare, hk, hu]
  | prepared u => exact absurd rfl (hn u)
  | finished r => exact ⟨c.attempting, _, rfl, hp, fun _ => rfl⟩
  | opening | settled =>
    obtain hp | hp | ⟨b, hp⟩ := hp <;> cases hp

end Channel

namespace System

/-- What happens while calls for one target overlap that are made from now on: callers make them,
they go on, their handshakes end, and time passes. -/
inductive Overlaps (s : System) (t : Target) : Input → Prop
  | connect {device : DeviceId} {vendor : String}
    (ht : Target.ofRequest s.channel.settings device vendor = t) :
    Overlaps s t (.connect device vendor)
  | proceed {n : Nat} (hn : s.calls.length ≤ n) : Overlaps s t (.proceed n)
  | outcome {n : Nat} (o : Outcome) (hn : s.calls.length ≤ n) : Overlaps s t (.outcome n o)
  | pass (ms : Nat) : Overlaps s t (.pass ms)

variable {s x y : System} {t : Target} {i : Input} {a n : Nat} {k : Call}

lemma conclude_of_not_pending (o : Outcome)
    (h : ∀ k, x.calls[n]? = some k → k.phase.generation? = none) : x.conclude n o = x := by
  unfold conclude
  split
  · next hk => cases h _ hk
  · rfl

/-- With an overlapping input an attempt begins, a handshake ends, or almost nothing happens. -/
lemma overlaps_cases (hi : s.Overlaps t i) (x : System) :
    (∃ b e, (x.step i).channel = { x.channel with attempting := b, lastError := e }) ∨
    (∃ n k u, s.calls.length ≤ n ∧ i = .proceed n ∧ x.calls[n]? = some k ∧
      k.phase = .prepared u ∧ x.channel.shutDown = false) ∨
    ∃ n o t g u d z, s.calls.length ≤ n ∧ i = .outcome n o ∧
      x.calls[n]? = some ⟨t, .opening g u d, z⟩ := by
  cases hi with
  | connect | pass => exact .inl ⟨_, _, rfl⟩
  | @proceed n hn =>
    cases hk : x.calls[n]? with
    | none => exact .inl ⟨x.channel.attempting, x.channel.lastError, by
        simp only [step, proceed, hk]⟩
    | some k =>
      by_cases hb : ∃ u, k.phase = .prepared u ∧ x.channel.shutDown = false
      · obtain ⟨u, hp, hs⟩ := hb
        exact .inr (.inl ⟨n, k, u, hn, rfl, hk, hp, hs⟩)
      · left
        rw [proceed_eq hk]
        refine Channel.proceed_of_not_begins _ _ fun u hu => ?_
        by_contra hs
        exact hb ⟨u, hu, Bool.eq_false_iff.2 hs⟩
  | @outcome n o hn =>
    by_cases hk : ∃ t g u d z, x.calls[n]? = some ⟨t, .opening g u d, z⟩
    · obtain ⟨t, g, u, d, z, hk⟩ := hk
      exact .inr (.inr ⟨n, o, t, g, u, d, z, hn, rfl, hk⟩)
    · refine .inl ⟨x.channel.attempting, x.channel.lastError, ?_⟩
      have hstep : x.step (.outcome n o) = x := conclude_of_not_pending o fun k hkn => by
        obtain ⟨t, p, z⟩ := k
        cases p with
        | opening g u d => exact absurd ⟨t, g, u, d, z, hkn⟩ hk
        | _ => rfl
      rw [hstep]

lemma calls_outcome_self {t : Target} {g : Nat} {u : Url} {d : Nat} {z : Option Timer}
    (hk : x.calls[n]? = some ⟨t, .opening g u d, z⟩) (o : Outcome) :
    ∃ b, (x.step (.outcome n o)).calls[n]? = some ⟨t, .settled (some b), z⟩ := by
  obtain ⟨b, hb⟩ := exists_settle g (Channel.timely x.clock.now d o x.channel.settings) x.channel
  refine ⟨b, ?_⟩
  simp only [step, conclude, hk, hb]
  exact getElem?_setPhase_self _ hk

lemma Overlaps.ne_credential (hi : s.Overlaps t i) (k : Option Credential) : i ≠ .credential k := by
  cases hi <;> simp

/-- What is true of the phase of a call among those that overlap: a credential is held once its
address is prepared; its handshake is of the generation in force, and nothing but its attempt was
counted if it is the first; and whatever it comes to is a result. -/
def Fair (s : System) (c : Channel) : Phase → Prop
  | .entered | .checked | .claimed => True
  | .prepared _ => c.credentials.held.isSome
  | .opening g _ _ => c.credentials.held.isSome ∧ g = c.generation ∧ s.channel.generation < g ∧
    (g = s.channel.generation + 1 → c.counters = s.channel.counters.attempt)
  | .settled r | .finished r => r.isSome

lemma Fair.congr {c c' : Channel} {p : Phase} (hp : s.Fair c p)
    (hcred : c'.credentials = c.credentials)
    (h : ∀ g u d, p = .opening g u d → c'.generation = c.generation ∧ c'.counters = c.counters) :
    s.Fair c' p := by
  cases p with
  | prepared u =>
    rw [Fair, hcred]
    exact hp
  | opening g u d =>
    obtain ⟨hg, hc⟩ := h g u d rfl
    rw [Fair, hcred, hg, hc]
    exact hp
  | _ => exact hp

/-- A system in which calls for one target overlap, and nothing else happens. -/
structure Races (s : System) (t : Target) (x : System) : Prop where
  coherent : x.skeleton.Coherent
  settings : x.channel.settings = s.channel.settings
  generation_le : s.channel.generation ≤ x.channel.generation
  /-- Nothing is counted before the first attempt. -/
  counters : x.channel.generation = s.channel.generation →
    x.channel.counters = s.channel.counters
  calls : ∀ n k, s.calls.length ≤ n → x.calls[n]? = some k →
    k.target = t ∧ s.Fair x.channel k.phase

namespace Races

lemma refl (h : s.skeleton.Coherent) (t : Target) : s.Races t s where
  coherent := h
  settings := rfl
  generation_le := Nat.le_refl _
  counters _ := rfl
  calls n k hn hk := by
    rw [List.getElem?_eq_none hn] at hk
    cases hk

lemma fair_proceed (h : s.Races t x) (now : Nat) {p : Phase} (hp : s.Fair x.channel p) :
    s.Fair (x.channel.proceed now t p).1 (x.channel.proceed now t p).2 := by
  cases p with
  | entered =>
    simp only [Channel.proceed, Channel.check]
    split_ifs <;> trivial
  | checked =>
    simp only [Channel.proceed, Channel.claim]
    split_ifs <;> trivial
  | claimed =>
    simp only [Channel.proceed, Channel.prepare]
    cases hc : x.channel.credentials.held with
    | none => rfl
    | some c =>
      cases hu : t.address x.channel.settings c with
      | error f => simp only [hu]; rfl
      | ok u => simp only [hu, Fair, hc, Option.isSome_some]
  | prepared u =>
    simp only [Channel.proceed, Channel.start]
    split_ifs
    · rfl
    · refine ⟨hp, rfl, Nat.lt_succ_of_le h.generation_le, fun hg => ?_⟩
      exact congrArg Counters.attempt (h.counters (Nat.succ.inj hg))
  | opening | settled | finished => exact hp

/-- What is true of the phase of a call stays true while the call stays in it. -/
lemma fair_stay (h : s.Races t x) (hi : s.Overlaps t i) (hk : x.calls[n]? = some k)
    (hk' : (x.step i).calls[n]? = some k) (hp : s.Fair x.channel k.phase) :
    s.Fair (x.step i).channel k.phase := by
  refine hp.congr (credentials_step hi.ne_credential x) fun g v d hq => ?_
  -- Only one call at a time holds the right to attempt.
  have hholds : k.phase.holds = true := by rw [hq]; rfl
  obtain ⟨b, e, hc⟩ | ⟨m, k', u, -, rfl, hm, hp', hs⟩ | ⟨m, o, t', g', u, d', z, -, rfl, hm⟩ :=
    overlaps_cases hi x
  · rw [hc]
    exact ⟨rfl, rfl⟩
  · obtain rfl := h.coherent.holder_unique hm hk (by rw [hp']; rfl) hholds
    obtain rfl := Option.some.inj (hm.symm.trans hk)
    rw [hq] at hp'
    cases hp'
  · obtain rfl := h.coherent.holder_unique hm hk rfl hholds
    obtain ⟨b, hb⟩ := calls_outcome_self hm o
    obtain rfl := Option.some.inj (hb.symm.trans hk')
    cases hq

/-- Overlapping inputs keep all this true. -/
lemma step (h : s.Races t x) (hi : s.Overlaps t i) : s.Races t (x.step i) where
  coherent := h.coherent.move (x.move_step i)
  settings := (x.move_step i).settings_eq.trans h.settings
  generation_le := Nat.le_trans h.generation_le (x.move_step i).generation_le
  counters hg := by
    have hle : x.channel.generation ≤ (x.step i).channel.generation :=
      (x.move_step i).generation_le
    have hx : x.channel.generation = s.channel.generation :=
      Nat.le_antisymm (hg ▸ hle) h.generation_le
    obtain ⟨b, e, hc⟩ | ⟨n, k, u, hn, rfl, hk, hp, hs⟩ | ⟨n, o, t', g, u, d, z, hn, rfl, hk⟩ :=
      overlaps_cases hi x
    · rw [hc]
      exact h.counters hx
    · rw [generation_start hk hp hs, hx] at hg
      exact absurd hg (Nat.succ_ne_self _)
    · obtain ⟨-, rfl, hlt, -⟩ := (h.calls n _ hn hk).2
      exact absurd hx (Nat.ne_of_gt hlt)
  calls n k hn hk := by
    cases hx : x.calls[n]? with
    | none =>
      obtain ⟨-, ⟨device, vendor, rfl, rfl⟩ | ⟨j, r, rfl, -⟩⟩ := new_of_step hk hx
      · cases hi with
        | connect ht => exact ⟨by rw [h.settings]; exact ht, trivial⟩
      · cases hi
    | some k' =>
      obtain ⟨ht, hp⟩ := h.calls n k' hn hx
      obtain ⟨p, hp', turn⟩ := exists_turn_step hx i
      obtain rfl := Option.some.inj (hp'.symm.trans hk)
      refine ⟨ht, ?_⟩
      cases turn with
      | stay => exact h.fair_stay hi hx hk hp
      | proceed =>
        rw [proceed_eq hx, ht]
        exact h.fair_proceed _ hp
      | @conclude _ g _ _ o =>
        obtain ⟨b, hb⟩ := exists_settle g o x.channel
        rw [hb]
        rfl
      | abandon | giveUp => cases hi

lemma run (h : s.Races t x) {inputs : List Input} (hi : ∀ i ∈ inputs, s.Overlaps t i) :
    s.Races t (x.run inputs) := by
  induction inputs generalizing x with
  | nil => exact h
  | cons i is ih =>
    exact ih (h.step (hi i List.mem_cons_self)) fun j hj => hi j (List.mem_cons_of_mem _ hj)

end Races

/-- The channel is open to the target of calls that overlap, and could be opened again. -/
structure Opened (s : System) (t : Target) (y : System) : Prop where
  present : y.channel.Present t
  supplies : ∃ u, y.channel.Supplies t u
  settings : y.channel.settings = s.channel.settings

/-- No call stands between its look at the channel and the begin of its attempt. -/
def Clear (s x : System) : Prop :=
  ∀ n k, s.calls.length ≤ n → x.calls[n]? = some k → k.phase.isCommitted = false

/-- The channel that a call has opened is kept: since then it has changed only in who may attempt,
and every other call takes no part in an attempt, and returns `true` if it looks at the channel. -/
structure Keeps (s : System) (a : Nat) (y x : System) : Prop where
  channel : x.channel = { y.channel with attempting := x.channel.attempting }
  readers : x.readers = y.readers
  winner : x.HasResult a (some true)
  others : ∀ n k, s.calls.length ≤ n → n ≠ a → x.calls[n]? = some k → k.phase.IsApart
  looks : ∀ n k, s.calls.length ≤ n → x.calls[n]? = some k → k.phase = .entered →
    (x.step (.proceed n)).result? n = some true

/-- A system in which the channel is kept that a call has opened, as a step finds it. -/
structure Kept (s : System) (t : Target) (a : Nat) (y x : System) : Prop where
  coherent : x.skeleton.Coherent
  channel : x.channel = { y.channel with attempting := x.channel.attempting }
  readers : x.readers = y.readers
  winner : x.HasResult a (some true)
  /-- Calls that were made before have no right to attempt. -/
  older : ∀ n k, n < s.calls.length → x.calls[n]? = some k → k.phase.holds = false
  calls : ∀ n k, s.calls.length ≤ n → x.calls[n]? = some k →
    k.target = t ∧ (n ≠ a → k.phase.IsApart)

namespace Kept

lemma opened (h : s.Kept t a y x) (hy : s.Opened t y) : s.Opened t x := by
  obtain ⟨⟨hd, ha, hc, ht⟩, hu, hset⟩ := hy
  constructor <;> rw [h.channel]
  · exact ⟨hd, ha, hc, ht⟩
  · exact hu
  · exact hset

lemma generation_eq (h : s.Kept t a y x) : x.channel.generation = y.channel.generation := by
  rw [h.channel]

lemma keeps (h : s.Kept t a y x) (hy : s.Opened t y) : s.Keeps a y x where
  channel := h.channel
  readers := h.readers
  winner := h.winner
  others n k hn hna hk := (h.calls n k hn hk).2 hna
  looks n k hn hk hp := by
    have hcheck := Channel.check_of_present (h.opened hy).present
    simp only [result?, calls_proceed_self hk, hp, (h.calls n k hn hk).1, Channel.proceed, hcheck]

/-- A call goes on, and of the channel nothing changes but who may attempt. -/
lemma of_put (h : s.Kept t a y x) {b : Bool} {q : Phase} (hn : s.calls.length ≤ n)
    (hk : x.calls[n]? = some k) (hstep : x.step i = x.put n ({ x.channel with attempting := b }, q))
    (hq : n ≠ a → q.IsApart) : s.Kept t a y (x.step i) where
  coherent := h.coherent.move (x.move_step i)
  channel := by
    rw [hstep]
    change { x.channel with attempting := b } = { y.channel with attempting := b }
    rw [h.channel]
  readers := by
    rw [hstep]
    exact h.readers
  winner := h.winner.step i
  older m k' hm hk' := by
    rw [hstep] at hk'
    have hnm : n ≠ m := Nat.ne_of_gt (Nat.lt_of_lt_of_le hm hn)
    exact h.older m k' hm ((getElem?_setPhase_ne q hnm).symm.trans hk')
  calls m k' hm hk' := by
    rw [hstep] at hk'
    by_cases hnm : n = m
    · subst hnm
      obtain rfl := Option.some.inj ((getElem?_setPhase_self q hk).symm.trans hk')
      exact ⟨(h.calls n k hn hk).1, hq⟩
    · exact h.calls m k' hm ((getElem?_setPhase_ne q hnm).symm.trans hk')

lemma step_enter (h : s.Kept t a y x) {device : DeviceId} {vendor : String}
    (ht : Target.ofRequest x.channel.settings device vendor = t) :
    s.Kept t a y (x.step (.connect device vendor)) ∧
      (s.Clear x → s.Clear (x.step (.connect device vendor))) := by
  have hcalls : ∀ {n : Nat} {k : Call}, (x.step (.connect device vendor)).calls[n]? = some k →
      x.calls[n]? = some k ∨ k = ⟨t, .entered, none⟩ := by
    intro n k hk
    cases hn : x.calls[n]? with
    | none => exact .inr (ht ▸ (eq_of_getElem?_enter hk hn).2)
    | some k' => exact .inl ((getElem?_enter hn _ _).symm.trans hk)
  refine ⟨⟨h.coherent.move (x.move_step (.connect device vendor)), h.channel, h.readers,
    h.winner.step (.connect device vendor), ?_, ?_⟩, ?_⟩
  · intro n k hn hk
    obtain hk | rfl := hcalls hk
    · exact h.older n k hn hk
    · rfl
  · intro n k hn hk
    obtain hk | rfl := hcalls hk
    · exact h.calls n k hn hk
    · exact ⟨rfl, fun _ => .inl rfl⟩
  · intro hc n k hn hk
    obtain hk | rfl := hcalls hk
    · exact hc n k hn hk
    · rfl

/-- A call goes on that begins no attempt. -/
lemma step_proceed (h : s.Kept t a y x) (hy : s.Opened t y) (hn : s.calls.length ≤ n)
    (hk : x.calls[n]? = some k) (hp : ∀ u, k.phase ≠ .prepared u) :
    s.Kept t a y (x.step (.proceed n)) ∧ (s.Clear x → s.Clear (x.step (.proceed n))) := by
  have hstep : x.step (.proceed n) =
      x.put n (x.channel.proceed x.clock.now k.target k.phase) := proceed_eq hk
  obtain ⟨b, q, hq, ha, hc⟩ : ∃ b q, x.channel.proceed x.clock.now k.target k.phase =
      ({ x.channel with attempting := b }, q) ∧ (n ≠ a → q.IsApart) ∧
        (k.phase.isCommitted = false → q.isCommitted = false) := by
    by_cases hna : n = a
    · subst hna
      obtain hr | hr := h.winner.phase_eq hk <;> rw [hr]
      · exact ⟨false, _, rfl, fun hne => absurd rfl hne, fun _ => rfl⟩
      · exact ⟨x.channel.attempting, _, rfl, fun hne => absurd rfl hne, fun _ => rfl⟩
    · obtain ⟨ht, ha⟩ := h.calls n k hn hk
      rw [ht]
      obtain ⟨b, q, hq, ha, hc⟩ := Channel.proceed_of_isApart (h.opened hy).present
        (h.opened hy).supplies x.clock.now (ha hna) hp
      exact ⟨b, q, hq, fun _ => ha, hc⟩
  rw [hq] at hstep
  refine ⟨h.of_put hn hk hstep ha, fun hclear m k' hm hk' => ?_⟩
  rw [hstep] at hk'
  by_cases hnm : n = m
  · subst hnm
    obtain rfl := Option.some.inj ((getElem?_setPhase_self q hk).symm.trans hk')
    exact hc (hclear n k hn hk)
  · exact hclear m k' hm ((getElem?_setPhase_ne q hnm).symm.trans hk')

/-- With an overlapping input the channel is kept, unless a further attempt begins. -/
lemma step (h : s.Kept t a y x) (hy : s.Opened t y) (hi : s.Overlaps t i) :
    (s.Kept t a y (x.step i) ∧ (s.Clear x → s.Clear (x.step i))) ∨
      ∃ n k u, s.calls.length ≤ n ∧ i = .proceed n ∧ x.calls[n]? = some k ∧
        k.phase = .prepared u := by
  cases hi with
  | connect ht => exact .inl (h.step_enter (by rw [(h.opened hy).settings]; exact ht))
  | @proceed n hn =>
    cases hk : x.calls[n]? with
    | none =>
      have hstep : x.step (.proceed n) = x := by simp only [System.step, System.proceed, hk]
      rw [hstep]
      exact .inl ⟨h, id⟩
    | some k =>
      by_cases hp : ∃ u, k.phase = .prepared u
      · obtain ⟨u, hp⟩ := hp
        exact .inr ⟨n, k, u, hn, rfl, hk, hp⟩
      · exact .inl (h.step_proceed hy hn hk (not_exists.1 hp))
  | @outcome n o hn =>
    have hstep : x.step (.outcome n o) = x := conclude_of_not_pending o fun k hk => by
      by_cases hna : n = a
      · subst hna
        obtain hr | hr := h.winner.phase_eq hk <;> rw [hr] <;> rfl
      · exact ((h.calls n k hn hk).2 hna).generation_eq_none
    rw [hstep]
    exact .inl ⟨h, id⟩
  | pass ms =>
    exact .inl ⟨⟨h.coherent.move (x.move_step _), h.channel, h.readers, h.winner.step _, h.older,
      h.calls⟩, id⟩

end Kept

/-- A further attempt can come to begin. -/
def Breaks (s : System) (t : Target) (y x : System) : Prop :=
  ∃ more, (∀ i ∈ more, s.Overlaps t i) ∧
    y.channel.generation < (x.run more).channel.generation

lemma Breaks.of_step (hi : s.Overlaps t i) (h : s.Breaks t y (x.step i)) : s.Breaks t y x := by
  obtain ⟨more, hm, hg⟩ := h
  refine ⟨i :: more, fun j hj => ?_, hg⟩
  obtain rfl | hj := List.mem_cons.1 hj
  · exact hi
  · exact hm j hj

namespace Kept

lemma run_of_clear (h : s.Kept t a y x) (hy : s.Opened t y) (hc : s.Clear x) {more : List Input}
    (hm : ∀ i ∈ more, s.Overlaps t i) : s.Kept t a y (x.run more) := by
  induction more generalizing x with
  | nil => exact h
  | cons i is ih =>
    obtain ⟨hk, hclear⟩ | ⟨n, k, u, hn, -, hk, hp⟩ :=
      h.step hy (hm i List.mem_cons_self)
    · exact ih hk (hclear hc) fun j hj => hm j (List.mem_cons_of_mem _ hj)
    · have := hc n k hn hk
      rw [hp] at this
      cases this

lemma generation_start (h : s.Kept t a y x) (hy : s.Opened t y) {u : Url}
    (hk : x.calls[n]? = some k) (hp : k.phase = .prepared u) :
    y.channel.generation < (x.step (.proceed n)).channel.generation := by
  rw [System.generation_start hk hp (h.opened hy).present.alive, h.generation_eq]
  exact Nat.lt_succ_self _

/-- As long as no further attempt has begun the channel is kept. -/
lemma run (h : s.Kept t a y x) (hy : s.Opened t y) {later : List Input}
    (hl : ∀ i ∈ later, s.Overlaps t i) : s.Kept t a y (x.run later) ∨
      y.channel.generation < (x.run later).channel.generation := by
  induction later generalizing x with
  | nil => exact .inl h
  | cons i is ih =>
    obtain ⟨hk, -⟩ | ⟨n, k, u, hn, rfl, hk, hp⟩ :=
      h.step hy (hl i List.mem_cons_self)
    · exact ih hk fun j hj => hl j (List.mem_cons_of_mem _ hj)
    · exact .inr (lt_generation_run _ (h.generation_start hy hk hp) is)

lemma breaks_of_prepared (h : s.Kept t a y x) (hy : s.Opened t y) (hn : s.calls.length ≤ n)
    {u : Url} (hk : x.calls[n]? = some k) (hp : k.phase = .prepared u) : s.Breaks t y x :=
  ⟨[.proceed n], by simpa using .proceed hn, h.generation_start hy hk hp⟩

lemma breaks_of_claimed (h : s.Kept t a y x) (hy : s.Opened t y) (hn : s.calls.length ≤ n)
    (hk : x.calls[n]? = some k) (hp : k.phase = .claimed) : s.Breaks t y x := by
  obtain ⟨u, c, hc, hu⟩ := (h.opened hy).supplies
  have hk' := calls_proceed_self hk
  simp only [hp, (h.calls n k hn hk).1, Channel.proceed, Channel.prepare, hc, hu] at hk'
  exact .of_step (.proceed hn) ((h.step_proceed hy hn hk
    (by simp [hp])).1.breaks_of_prepared hy hn hk' rfl)

lemma breaks_of_checked (h : s.Kept t a y x) (hy : s.Opened t y) (hn : s.calls.length ≤ n)
    (hk : x.calls[n]? = some k) (hp : k.phase = .checked) (hf : x.channel.attempting = false) :
    s.Breaks t y x := by
  have hk' := calls_proceed_self hk
  simp only [hp, Channel.proceed, Channel.claim_of_free hf] at hk'
  exact .of_step (.proceed hn) ((h.step_proceed hy hn hk
    (by simp [hp])).1.breaks_of_claimed hy hn hk' rfl)

/-- The call that has opened the channel gives the right to attempt back, and a call claims it that
has passed its look before. -/
lemma breaks_of_winner (h : s.Kept t a y x) (hy : s.Opened t y) (ha : s.calls.length ≤ a)
    (hn : s.calls.length ≤ n) (hk : x.calls[n]? = some k) (hp : k.phase = .checked) {k' : Call}
    (hm : x.calls[a]? = some k') (hh : k'.phase.holds = true) : s.Breaks t y x := by
  have hr : k'.phase = .settled (some true) := (h.winner.phase_eq hm).resolve_right fun hr => by
    rw [hr] at hh
    cases hh
  have hne : a ≠ n := by
    rintro rfl
    obtain rfl := Option.some.inj (hm.symm.trans hk)
    rw [hp] at hr
    cases hr
  have hk' : (x.step (.proceed a)).calls[n]? = some k := (calls_proceed_ne hm hne).trans hk
  have hf : (x.step (.proceed a)).channel.attempting = false := by
    rw [proceed_eq hm, hr]
    rfl
  exact .of_step (.proceed ha) ((h.step_proceed hy ha hm
    (by simp [hr])).1.breaks_of_checked hy hn hk' hp hf)

/-- A committed call can come to begin an attempt, or another one that holds the right can. -/
lemma breaks_of_committed (h : s.Kept t a y x) (hy : s.Opened t y) (ha : s.calls.length ≤ a)
    (hn : s.calls.length ≤ n) (hk : x.calls[n]? = some k) (hc : k.phase.isCommitted = true) :
    s.Breaks t y x := by
  cases hp : k.phase with
  | claimed => exact h.breaks_of_claimed hy hn hk hp
  | prepared u => exact h.breaks_of_prepared hy hn hk hp
  | checked =>
    cases hf : x.channel.attempting with
    | false => exact h.breaks_of_checked hy hn hk hp hf
    | true =>
      obtain ⟨m, k', hm, hh⟩ := h.coherent.exists_holder hf
      replace hm : x.calls[m]? = some k' := hm
      have hsm : s.calls.length ≤ m := by
        by_contra hlt
        exact absurd ((h.older m k' (Nat.lt_of_not_le hlt) hm).symm.trans hh) Bool.false_ne_true
      by_cases hma : m = a
      · subst hma
        exact h.breaks_of_winner hy ha hn hk hp hm hh
      · obtain hq | ⟨u, hq⟩ := ((h.calls m k' hsm hm).2 hma).eq_of_holds hh
        · exact h.breaks_of_claimed hy hsm hm hq
        · exact h.breaks_of_prepared hy hsm hm hq
  | entered | opening | settled | finished =>
    rw [hp] at hc
    cases hc

end Kept

section Opening

variable {g : Nat} {u : Url} {d : Nat} {z : Option Timer}

/-- The handshake of a call that overlaps others has succeeded, so that the channel is open. -/
lemma opened_of_races (h : s.Races t x) (hu : x.skeleton.Usable) (ha : s.calls.length ≤ a)
    (hk : x.calls[a]? = some ⟨t, .opening x.channel.generation u d, z⟩)
    (hd : x.clock.now ≤ d) : s.Opened t (x.step (.outcome a .opened)) := by
  have hset := settles_of_ends h.coherent hk (.opened hd)
  have hm := x.move_step (.outcome a .opened)
  obtain ⟨hb, haddr⟩ := (hu.move hm).target t hset.target
  have hcred := credentials_step (i := .outcome a .opened) (nofun) x
  obtain ⟨c, hc⟩ := Option.isSome_iff_exists.1 (h.calls a _ ha hk).2.1
  obtain ⟨v, hv⟩ := (ChannelSettings.hasAddress_iff t c).1 haddr
  obtain ⟨-, -, hs, -⟩ := (h.coherent.move hm).reader _ hset.reader
  exact ⟨⟨hb, hs, hset.state, hset.target⟩, ⟨v, c, by rw [hcred, hc], hv⟩,
    hm.settings_eq.trans h.settings⟩

/-- While a call awaits its handshake all others take no part in an attempt. -/
lemma isApart_of_races (h : s.Races t x) (hk : x.calls[a]? = some ⟨t, .opening g u d, z⟩)
    (hn : s.calls.length ≤ n) (hna : n ≠ a) (hk' : x.calls[n]? = some k) : k.phase.IsApart := by
  have hf := (h.calls n k hn hk').2
  have hh : k.phase.holds ≠ true := fun hh => hna (h.coherent.holder_unique hk' hk hh rfl)
  cases hp : k.phase with
  | entered => exact .inl rfl
  | checked => exact .inr (.inl rfl)
  | finished r =>
    rw [hp] at hf
    obtain ⟨b, rfl⟩ := Option.isSome_iff_exists.1 hf
    exact .inr (.inr ⟨b, rfl⟩)
  | _ =>
    rw [hp] at hh
    exact absurd rfl hh

lemma kept_of_races (h : s.Races t x) (ha : s.calls.length ≤ a)
    (hk : x.calls[a]? = some ⟨t, .opening x.channel.generation u d, z⟩)
    (hd : x.clock.now ≤ d) :
    s.Kept t a (x.step (.outcome a .opened)) (x.step (.outcome a .opened)) := by
  have hset := settles_of_ends h.coherent hk (.opened hd)
  have hcalls : ∀ n, n ≠ a → (x.step (.outcome a .opened)).calls[n]? = x.calls[n]? := by
    intro n hna
    rw [step_of_ends hk (.opened hd)]
    exact getElem?_setPhase_ne _ (Ne.symm hna)
  obtain ⟨z', hw⟩ := hset.call
  refine ⟨h.coherent.move (x.move_step _), rfl, rfl, ⟨_, hw, .inl rfl⟩, ?_, ?_⟩
  · intro n k hn hk'
    have hna : n ≠ a := Nat.ne_of_lt (Nat.lt_of_lt_of_le hn ha)
    rw [hcalls n hna] at hk'
    exact Bool.eq_false_iff.2 fun hh => hna (h.coherent.holder_unique hk' hk hh rfl)
  · intro n k hn hk'
    by_cases hna : n = a
    · subst hna
      obtain rfl := Option.some.inj (hw.symm.trans hk')
      exact ⟨rfl, fun hne => absurd rfl hne⟩
    · rw [hcalls n hna] at hk'
      exact ⟨(h.calls n k hn hk').1, fun _ => isApart_of_races h hk hn hna hk'⟩

lemma counters_of_races (h : s.Races t x) (ha : s.calls.length ≤ a)
    (hk : x.calls[a]? = some ⟨t, .opening (s.channel.generation + 1) u d, z⟩)
    (hd : x.clock.now ≤ d) : (x.step (.outcome a .opened)).channel.counters =
      s.channel.counters.attempt.openSession := by
  obtain ⟨-, hg, -, hc⟩ := (h.calls a _ ha hk).2
  obtain ⟨hs, -⟩ := h.coherent.pending _ (List.mem_of_getElem? hk) (congrArg some hg)
  rw [step_of_ends hk (.opened hd), conclusion,
    Channel.conclude_of_isCurrent (Channel.isCurrent_iff.2 ⟨hg.symm, hs⟩)]
  exact congrArg Counters.openSession (hc rfl)

end Opening

lemma keeps_iff (h : s.Kept t a y x) (hy : s.Opened t y) (ha : s.calls.length ≤ a) :
    (∀ more, (∀ i ∈ more, s.Overlaps t i) → s.Keeps a y (x.run more)) ↔ s.Clear x := by
  constructor
  · intro hkeeps n k hn hk
    by_contra hc
    obtain ⟨more, hm, hlt⟩ := h.breaks_of_committed hy ha hn hk (by simpa using hc)
    have hg := congrArg Channel.generation (hkeeps more hm).channel
    exact absurd hg (Nat.ne_of_gt hlt)
  · intro hc more hm
    exact (h.run_of_clear hy hc hm).keeps hy

/-- In every run, if the first attempt of calls for one target that overlap opens the channel, it
counts as the only one; and as long as the channel is kept, it is kept for good exactly if no call
stands between its look at the channel and the begin of its attempt. -/
theorem overlap_run (settings : ChannelSettings) (capacity : Nat) (credentials : CredentialSlot)
    (clock : Channel.Clock) (inputs : List Input) :
    let s := (new (.new settings capacity credentials) clock).run inputs
    ∀ t first, (∀ i ∈ first, s.Overlaps t i) → ∀ a u d z, s.calls.length ≤ a →
      (s.run first).calls[a]? = some ⟨t, .opening (s.channel.generation + 1) u d, z⟩ →
      (s.run first).clock.now ≤ d →
      let y := (s.run first).step (.outcome a .opened)
      (s.run first).Settles a t .opened y ∧
        y.channel.counters = s.channel.counters.attempt.openSession ∧ s.Keeps a y y ∧
        ∀ later, (∀ i ∈ later, s.Overlaps t i) → s.Keeps a y (y.run later) →
          ((∀ more, (∀ i ∈ more, s.Overlaps t i) → s.Keeps a y ((y.run later).run more)) ↔
            s.Clear (y.run later)) := by
  intro s t first hfirst a u d z ha hk hd y
  have hraces : s.Races t (s.run first) := (Races.refl (coherent_run ..) t).run hfirst
  have husable : (s.run first).skeleton.Usable :=
    skeleton_run s (fun _ _ => Skeleton.Usable.move) first (usable_run ..)
  have hcounters := counters_of_races hraces ha hk hd
  rw [(hraces.calls a _ ha hk).2.2.1] at hk
  have hy : s.Opened t y := opened_of_races hraces husable ha hk hd
  have hkept : s.Kept t a y y := kept_of_races hraces ha hk hd
  refine ⟨settles_of_ends hraces.coherent hk (.opened hd), hcounters, hkept.keeps hy, ?_⟩
  intro later hlater hkeeps
  obtain hx | hlt := hkept.run hy hlater
  · exact keeps_iff hx hy ha
  · exact absurd (congrArg Channel.generation hkeeps.channel) (Nat.ne_of_gt hlt)

/-- The first of two calls for one target begins before the second looks at the channel. -/
def overtaking : List Input :=
  [.connect ⟨"r1"⟩ "", .connect ⟨"r1"⟩ "", .proceed 0, .proceed 0, .proceed 0, .proceed 0]

/-- A call that looks at the channel once the first has begun leaves the channel alone. -/
theorem overlap_overtaking :
    (∀ i ∈ overtaking, resting.Overlaps ⟨⟨"r1"⟩, "generic"⟩ i) ∧
    ((resting.run overtaking).waitingFor? 0).isSome ∧
    ∀ more, (∀ i ∈ more, resting.Overlaps ⟨⟨"r1"⟩, "generic"⟩ i) →
      resting.Keeps 0 ((resting.run overtaking).step (.outcome 0 .opened))
        (((resting.run overtaking).step (.outcome 0 .opened)).run more) := by
  have hover : ∀ i ∈ overtaking, resting.Overlaps ⟨⟨"r1"⟩, "generic"⟩ i := by
    simp only [overtaking, List.forall_mem_cons]
    exact ⟨.connect (by decide +kernel), .connect (by decide +kernel), .proceed (Nat.zero_le _),
      .proceed (Nat.zero_le _), .proceed (Nat.zero_le _), .proceed (Nat.zero_le _), by simp⟩
  obtain ⟨-, -, hkeeps, hiff⟩ := overlap_run {} 50 (.ofToken (some "t")) ⟨0, "now"⟩ []
    ⟨⟨"r1"⟩, "generic"⟩ overtaking hover 0 _ _ _ (Nat.zero_le _) rfl (by decide +kernel)
  have hclear : ∀ k ∈ ((resting.run overtaking).step (.outcome 0 .opened)).calls,
      k.phase.isCommitted = false := by decide +kernel
  exact ⟨hover, by decide +kernel, (hiff [] (by simp) hkeeps).2 fun _ k _ hk =>
    hclear k (List.mem_of_getElem? hk)⟩

/-- Two calls for one target look at the channel before either has begun. -/
def racing : List Input :=
  [.connect ⟨"r1"⟩ "", .connect ⟨"r1"⟩ "", .proceed 0, .proceed 1, .proceed 0, .proceed 0,
    .proceed 0]

/-- A call that has looked at the channel too early closes the channel that the first has opened,
and opens another. -/
theorem overlap_opens_twice :
    (∀ i ∈ racing ++ [.outcome 0 .opened, .proceed 0, .proceed 1, .outcome 1 .opened],
      resting.Overlaps ⟨⟨"r1"⟩, "generic"⟩ i) ∧
    (resting.run (racing ++ [.outcome 0 .opened])).channel.reader = some 1 ∧
    (resting.run (racing ++ [.outcome 0 .opened, .proceed 0, .proceed 1, .proceed 1,
      .proceed 1])).channel.reader = none ∧
    let z := resting.run (racing ++ [.outcome 0 .opened, .proceed 0, .proceed 1, .proceed 1,
      .proceed 1, .outcome 1 .opened, .proceed 1])
    z.result? 0 = some true ∧ z.result? 1 = some true ∧ z.channel.counters.attempts = 2 ∧
      z.channel.counters.opened = 2 := by
  refine ⟨?_, by decide +kernel⟩
  simp only [racing, List.cons_append, List.nil_append, List.forall_mem_cons]
  exact ⟨.connect (by decide +kernel), .connect (by decide +kernel), .proceed (Nat.zero_le _),
    .proceed (Nat.zero_le _), .proceed (Nat.zero_le _), .proceed (Nat.zero_le _),
    .proceed (Nat.zero_le _), .outcome _ (Nat.zero_le _), .proceed (Nat.zero_le _),
    .proceed (Nat.zero_le _), .outcome _ (Nat.zero_le _), by simp⟩

end System
end LiveTelemetry
