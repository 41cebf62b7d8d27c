import LiveTelemetry.Proofs.Channel.Skeleton
import Mathlib.Algebra.Ring.Nat

/-!
How the separately written parts of a channel agree with each other and with the calls, readers
and timers that run. Main statement: every move keeps this agreement, so that it holds in every
system that a run leads to.
-/
namespace LiveTelemetry

lemma countP_modify_add {α : Type} (p : α → Bool) (f : α → α) {l : List α} {n : Nat} {x : α}
    (hx : l[n]? = some x) : (l.modify n f).countP p + (p x).toNat = l.countP p + (p (f x)).toNat := by
  induction l generalizing n with
  | nil => simp at hx
  | cons y l ih =>
    cases n with
    | zero =>
      obtain rfl : y = x := by simpa using hx
      simp only [List.modify_zero_cons, List.countP_cons]
      cases p y <;> cases p (f y) <;> simp
    | succ n =>
      have h := ih (by simpa using hx)
      simp only [List.modify_succ_cons, List.countP_cons]
      omega

lemma eq_of_countP_le_one {α : Type} {p : α → Bool} {l : List α} (h : l.countP p ≤ 1) {m n : Nat}
    {x y : α} (hm : l[m]? = some x) (hn : l[n]? = some y) (hx : p x = true) (hy : p y = true) :
    m = n := by
  induction l generalizing m n with
  | nil => simp at hm
  | cons z l ih =>
    rw [List.countP_cons] at h
    have hpos : ∀ {i w}, l[i]? = some w → p w = true → 0 < l.countP p := fun hi hw =>
      List.countP_pos_iff.2 ⟨_, List.mem_of_getElem? hi, hw⟩
    cases m with
    | zero =>
      cases n with
      | zero => rfl
      | succ n =>
        obtain rfl : z = x := by simpa using hm
        have := hpos (by simpa using hn) hy
        simp only [hx, if_true] at h
        omega
    | succ m =>
      cases n with
      | zero =>
        obtain rfl : z = y := by simpa using hn
        have := hpos (by simpa using hm) hx
        simp only [hy, if_true] at h
        omega
      | succ n => exact congrArg (· + 1) (ih (by omega) (by simpa using hm) (by simpa using hn))

/-- A timer was set and may still do something, itself or by a call. -/
def System.Knows (s : System) (t : Timer) : Prop :=
  s.channel.timer = some t ∨ t ∈ s.woken ∨ ∃ k ∈ s.calls, k.timer = some t

namespace Skeleton

def Knows (a : Skeleton) (t : Timer) : Prop :=
  a.timer = some t ∨ t ∈ a.woken ∨ ∃ k ∈ a.calls, k.timer = some t

/-- The invariant of all runs. -/
structure Coherent (a : Skeleton) : Prop where
  right : a.calls.countP (fun k => k.phase.holds) = a.attempting.toNat
  pending_le : ∀ k ∈ a.calls, ∀ g, k.phase.generation? = some g → g ≤ a.generation
  /-- A handshake of the generation in force is what the channel waits for. -/
  pending : ∀ k ∈ a.calls, k.phase.generation? = some a.generation →
    a.shutDown = false ∧ a.state = .connecting ∧ a.target = some k.target ∧
      a.reconnectAllowed = true
  connecting : a.shutDown = false → a.state = .connecting →
    ∃ k ∈ a.calls, k.phase.generation? = some a.generation
  connected : a.shutDown = false → a.state = .connected → a.reader = some a.generation
  reader : ∀ g, a.reader = some g → g = a.generation ∧ g ∈ a.readers ∧ a.shutDown = false ∧
    a.state = .connected ∧ a.target.isSome ∧ a.reconnectAllowed = true
  readers_le : ∀ g ∈ a.readers, g ≤ a.generation
  readers_nodup : a.readers.Nodup
  reader_current : a.generation ∈ a.readers → a.reader = some a.generation
  timer : ∀ t, a.timer = some t → t.generation = a.generation ∧ a.shutDown = false ∧
    a.state = .disconnected ∧ a.target = some t.target ∧ a.reconnectAllowed = true
  timers_le : ∀ t, a.Knows t → t.generation ≤ a.generation
  woken_nodup : a.woken.Nodup
  /-- Of the timers that have woken only the pending one still counts. -/
  woken : ∀ t ∈ a.woken, t.generation = a.generation → a.timer = some t
  tearing : a.tearing = true → a.shutDown = true

variable {a : Skeleton}

lemma mem_setPhase {n : Nat} {k k' : Call} {p : Phase} (hk : a.calls[n]? = some k)
    (h : k' ∈ (a.setPhase n p).calls) :
    k' = { k with phase := p } ∨ ∃ m, m ≠ n ∧ a.calls[m]? = some k' := by
  obtain ⟨m, hm⟩ := List.mem_iff_getElem?.1 h
  by_cases hmn : m = n
  · subst m
    simp only [setPhase, List.getElem?_modify_eq, hk] at hm
    exact .inl (Option.some.inj hm).symm
  · simp only [setPhase, List.getElem?_modify_ne _ _ (Ne.symm hmn)] at hm
    exact .inr ⟨m, hmn, hm⟩

lemma mem_setPhase_self {n : Nat} {k : Call} {p : Phase} (hk : a.calls[n]? = some k) :
    { k with phase := p } ∈ (a.setPhase n p).calls := by
  apply List.mem_of_getElem? (i := n)
  simp [setPhase, hk]

lemma mem_setPhase_of_ne {m n : Nat} {k : Call} {p : Phase} (hmn : m ≠ n)
    (hk : a.calls[m]? = some k) : k ∈ (a.setPhase n p).calls := by
  apply List.mem_of_getElem? (i := m)
  simpa only [setPhase, List.getElem?_modify_ne _ _ (Ne.symm hmn)] using hk

lemma knows_setPhase {n : Nat} {k : Call} {p : Phase} {t : Timer} (hk : a.calls[n]? = some k)
    (h : (a.setPhase n p).Knows t) : a.Knows t := by
  obtain h | h | ⟨k', hk', ht⟩ := h
  · exact .inl h
  · exact .inr (.inl h)
  · obtain rfl | ⟨m, -, hm⟩ := mem_setPhase hk hk'
    · exact .inr (.inr ⟨k, List.mem_of_getElem? hk, ht⟩)
    · exact .inr (.inr ⟨k', List.mem_of_getElem? hm, ht⟩)

namespace Coherent

/-- Only one call at a time holds the right to attempt. -/
lemma holder_unique (h : a.Coherent) {m n : Nat} {k k' : Call} (hm : a.calls[m]? = some k)
    (hn : a.calls[n]? = some k') (hk : k.phase.holds = true) (hk' : k'.phase.holds = true) :
    m = n := by
  refine eq_of_countP_le_one (p := fun k => k.phase.holds) ?_ hm hn hk hk'
  rw [h.right]
  exact Bool.toNat_le _

lemma holds_of_generation {p : Phase} {g : Nat} (h : p.generation? = some g) : p.holds = true := by
  cases p <;> simp_all [Phase.generation?, Phase.holds]

lemma right_setPhase (h : a.Coherent) {n : Nat} {k : Call} (p : Phase)
    (hk : a.calls[n]? = some k) :
    (a.setPhase n p).calls.countP (fun k => k.phase.holds) + k.phase.holds.toNat =
      a.attempting.toNat + p.holds.toNat := by
  rw [← h.right]
  exact countP_modify_add _ _ hk

lemma pending_le_setPhase (h : a.Coherent) {n : Nat} {k : Call} {p : Phase}
    (hk : a.calls[n]? = some k) (hp : p.generation? = none) :
    ∀ k' ∈ (a.setPhase n p).calls, ∀ g, k'.phase.generation? = some g → g ≤ a.generation := by
  intro k' hk' g hg
  obtain rfl | ⟨m, -, hm⟩ := mem_setPhase hk hk'
  · rw [hp] at hg
    contradiction
  · exact h.pending_le k' (List.mem_of_getElem? hm) g hg

/-- While the reader of the generation in force runs, no handshake of it is awaited. -/
lemma reader_none_of_pending (h : a.Coherent) {k : Call} (hk : k ∈ a.calls)
    (hg : k.phase.generation? = some a.generation) : a.reader = none := by
  obtain ⟨-, hs, -⟩ := h.pending k hk hg
  cases hr : a.reader with
  | none => rfl
  | some g =>
    obtain ⟨-, -, -, hs', -⟩ := h.reader g hr
    rw [hs] at hs'
    contradiction

lemma timer_none_of_pending (h : a.Coherent) {k : Call} (hk : k ∈ a.calls)
    (hg : k.phase.generation? = some a.generation) : a.timer = none := by
  obtain ⟨-, hs, -⟩ := h.pending k hk hg
  cases ht : a.timer with
  | none => rfl
  | some t =>
    obtain ⟨-, -, hs', -⟩ := h.timer t ht
    rw [hs] at hs'
    contradiction

lemma ring (h : a.Coherent) {t : Timer} (ht : a.timer = some t) (hn : t ∉ a.woken) :
    Coherent { a with woken := a.woken ++ [t] } :=
  { h with
    timers_le := by
      rintro u (hu | hu | hu)
      · exact h.timers_le u (.inl hu)
      · obtain hu | hu := List.mem_append.1 hu
        · exact h.timers_le u (.inr (.inl hu))
        · rw [List.mem_singleton.1 hu]
          exact h.timers_le t (.inl ht)
      · exact h.timers_le u (.inr (.inr hu))
    woken_nodup := by
      rw [List.nodup_append]
      refine ⟨h.woken_nodup, by simp, ?_⟩
      intro u hu v hv he
      rw [List.mem_singleton.1 hv] at he
      exact hn (he ▸ hu)
    woken := by
      intro u hu hg
      obtain hu | hu := List.mem_append.1 hu
      · exact h.woken u hu hg
      · rw [List.mem_singleton.1 hu]
        exact ht }

lemma enter (h : a.Coherent) (t : Target) {x : Option Timer}
    (hx : ∀ u, x = some u → u.generation ≤ a.generation) :
    Coherent { a with calls := a.calls ++ [⟨t, .entered, x⟩] } :=
  { h with
    right := by rw [List.countP_append, h.right]; rfl
    pending_le := by
      intro k hk g hg
      obtain hk | hk := List.mem_append.1 hk
      · exact h.pending_le k hk g hg
      · rw [List.mem_singleton.1 hk] at hg
        cases hg
    pending := by
      intro k hk hg
      obtain hk | hk := List.mem_append.1 hk
      · exact h.pending k hk hg
      · rw [List.mem_singleton.1 hk] at hg
        cases hg
    connecting := by
      intro hs hc
      obtain ⟨k, hk, hg⟩ := h.connecting hs hc
      exact ⟨k, List.mem_append_left _ hk, hg⟩
    timers_le := by
      rintro u (hu | hu | ⟨k, hk, hu⟩)
      · exact h.timers_le u (.inl hu)
      · exact h.timers_le u (.inr (.inl hu))
      · obtain hk | hk := List.mem_append.1 hk
        · exact h.timers_le u (.inr (.inr ⟨k, hk, hu⟩))
        · rw [List.mem_singleton.1 hk] at hu
          exact hx u hu }

lemma oversleep (h : a.Coherent) (i : Nat) : Coherent { a with woken := a.woken.eraseIdx i } :=
  { h with
    timers_le := by
      rintro u (hu | hu | hu)
      · exact h.timers_le u (.inl hu)
      · exact h.timers_le u (.inr (.inl (List.mem_of_mem_eraseIdx hu)))
      · exact h.timers_le u (.inr (.inr hu))
    woken_nodup := h.woken_nodup.eraseIdx i
    woken := fun u hu hg => h.woken u (List.mem_of_mem_eraseIdx hu) hg }

/-- A timer that counts takes itself out of the plan when it wakes. -/
lemma wake (h : a.Coherent) {i : Nat} {t : Timer} (ht : a.woken[i]? = some t)
    (hg : a.generation = t.generation) :
    Coherent { a with
      timer := none
      woken := a.woken.eraseIdx i
      calls := a.calls ++ [⟨t.target, .entered, some t⟩] } := by
  have hmem := List.mem_of_getElem? ht
  have hset := h.woken t hmem hg.symm
  have he : Coherent { a with timer := none, woken := a.woken.eraseIdx i } :=
    { h.oversleep i with
      timer := by simp
      timers_le := by
        rintro u (hu | hu | hu)
        · simp at hu
        · exact h.timers_le u (.inr (.inl (List.mem_of_mem_eraseIdx hu)))
        · exact h.timers_le u (.inr (.inr hu))
      woken := by
        intro u hu hgu
        have hut : t = u := by
          have := h.woken u (List.mem_of_mem_eraseIdx hu) hgu
          exact Option.some.inj (hset.symm.trans this)
        subst u
        -- A second copy of the timer would contradict that it has woken only once.
        obtain ⟨j, hji, hj⟩ := List.mem_eraseIdx_iff_getElem?.1 hu
        have hlt := (List.getElem?_eq_some_iff.1 hj).1
        exact absurd ((List.getElem?_inj hlt h.woken_nodup).1 (hj.trans ht.symm)) hji }
  exact he.enter t.target fun u hu => by
    obtain rfl := Option.some.inj hu
    exact Nat.le_of_eq hg.symm

/-- A call goes on without a handshake, and perhaps takes the right or gives it back. -/
lemma proceed (h : a.Coherent) {n : Nat} {k : Call} {p : Phase} {b : Bool}
    (hk : a.calls[n]? = some k)
    (hb : a.attempting.toNat + p.holds.toNat = b.toNat + k.phase.holds.toNat)
    (hp : p.generation? = none)
    (hg : a.shutDown = false → k.phase.generation? ≠ some a.generation) :
    Coherent { a.setPhase n p with attempting := b } :=
  { h with
    right := by
      have hr := h.right_setPhase p hk
      rw [hb] at hr
      exact Nat.add_right_cancel hr
    pending_le := h.pending_le_setPhase hk hp
    pending := by
      intro k' hk' hg'
      obtain rfl | ⟨m, -, hm⟩ := mem_setPhase hk hk'
      · rw [hp] at hg'
        contradiction
      · exact h.pending k' (List.mem_of_getElem? hm) hg'
    connecting := by
      intro hs hc
      obtain ⟨k', hk', hg'⟩ := h.connecting hs hc
      obtain ⟨m, hm⟩ := List.mem_iff_getElem?.1 hk'
      refine ⟨k', mem_setPhase_of_ne ?_ hm, hg'⟩
      rintro rfl
      obtain rfl := Option.some.inj (hk.symm.trans hm)
      exact hg hs hg'
    timers_le := fun u hu => h.timers_le u (knows_setPhase hk hu) }

lemma attempting_of_holds (h : a.Coherent) {n : Nat} {k : Call} (hk : a.calls[n]? = some k)
    (hh : k.phase.holds = true) : a.attempting = true := by
  have hpos : 0 < a.calls.countP fun k => k.phase.holds :=
    List.countP_pos_iff.2 ⟨k, List.mem_of_getElem? hk, hh⟩
  rw [h.right] at hpos
  cases ha : a.attempting with
  | true => rfl
  | false =>
    rw [ha] at hpos
    contradiction

/-- While the right to attempt is taken, some call holds it. -/
lemma exists_holder (h : a.Coherent) (ha : a.attempting = true) :
    ∃ (n : Nat) (k : Call), a.calls[n]? = some k ∧ k.phase.holds = true := by
  have hcount : a.calls.countP (fun k => k.phase.holds) = true.toNat := ha ▸ h.right
  obtain ⟨k, hmem, hh⟩ := List.countP_pos_iff.1
    (show 0 < a.calls.countP (fun k => k.phase.holds) by rw [hcount]; exact Nat.one_pos)
  obtain ⟨n, hn⟩ := List.mem_iff_getElem?.1 hmem
  exact ⟨n, k, hn, hh⟩

/-- A new generation begins with nothing that belongs to it. -/
lemma renew (h : a.Coherent) {state : ChannelState} {allowed shutDown tearing : Bool}
    (hs : shutDown = false → state = .disconnected) (ht : tearing = true → shutDown = true) :
    Coherent { a with
      generation := a.generation + 1
      reader := none
      timer := none
      reconnectAllowed := allowed
      state := state
      shutDown := shutDown
      tearing := tearing } where
  right := h.right
  pending_le k hk g hg := Nat.le_succ_of_le (h.pending_le k hk g hg)
  pending k hk hg := absurd (h.pending_le k hk _ hg) (Nat.not_succ_le_self _)
  connecting hs' hc := by
    obtain rfl := hs hs'
    cases hc
  connected hs' hc := by
    obtain rfl := hs hs'
    cases hc
  reader g hg := by cases hg
  readers_le g hg := Nat.le_succ_of_le (h.readers_le g hg)
  readers_nodup := h.readers_nodup
  reader_current hg := absurd (h.readers_le _ hg) (Nat.not_succ_le_self _)
  timer t ht := by cases ht
  timers_le t ht := by
    obtain ht | ht := ht
    · cases ht
    · exact Nat.le_succ_of_le (h.timers_le t (.inr ht))
  woken_nodup := h.woken_nodup
  woken t ht hg :=
    absurd (hg ▸ h.timers_le t (.inr (.inl ht))) (Nat.not_succ_le_self _)
  tearing := ht

lemma start (h : a.Coherent) {n : Nat} {k : Call} {u : Url} (deadline : Nat)
    (hk : a.calls[n]? = some k) (hp : k.phase = .prepared u) (hs : a.shutDown = false) :
    Coherent { a.setPhase n (.opening (a.generation + 1) u deadline) with
      generation := a.generation + 1
      reader := none
      timer := none
      target := some k.target
      reconnectAllowed := true
      state := .connecting } where
  right := by
    have hr := h.right_setPhase (.opening (a.generation + 1) u deadline) hk
    rw [hp] at hr
    exact Nat.add_right_cancel hr
  pending_le k' hk' g hg := by
    obtain rfl | ⟨m, -, hm⟩ := mem_setPhase hk hk'
    · exact Nat.le_of_eq (Option.some.inj hg).symm
    · exact Nat.le_succ_of_le (h.pending_le k' (List.mem_of_getElem? hm) g hg)
  pending k' hk' hg := by
    obtain rfl | ⟨m, -, hm⟩ := mem_setPhase hk hk'
    · exact ⟨hs, rfl, rfl, rfl⟩
    · exact absurd (h.pending_le k' (List.mem_of_getElem? hm) _ hg) (Nat.not_succ_le_self _)
  connecting _ _ := ⟨_, mem_setPhase_self hk, rfl⟩
  connected _ hc := by cases hc
  reader g hg := by cases hg
  readers_le g hg := Nat.le_succ_of_le (h.readers_le g hg)
  readers_nodup := h.readers_nodup
  reader_current hg := absurd (h.readers_le _ hg) (Nat.not_succ_le_self _)
  timer t ht := by cases ht
  timers_le t ht := by
    obtain ht | ht := ht
    · cases ht
    · exact Nat.le_succ_of_le (h.timers_le t (knows_setPhase hk (.inr ht)))
  woken_nodup := h.woken_nodup
  woken t ht hg := absurd (hg ▸ h.timers_le t (.inr (.inl ht))) (Nat.not_succ_le_self _)
  tearing := h.tearing

/-- Once the handshake of the generation in force is over, none is awaited. -/
lemma not_pending_settled (h : a.Coherent) {n : Nat} {k k' : Call} {r : Option Bool}
    (hk : a.calls[n]? = some k) (hg : k.phase.generation? = some a.generation)
    (hk' : k' ∈ (a.setPhase n (.settled r)).calls) :
    k'.phase.generation? ≠ some a.generation := by
  intro hg'
  obtain rfl | ⟨m, hmn, hm⟩ := mem_setPhase hk hk'
  · cases hg'
  · exact hmn (h.holder_unique hm hk (holds_of_generation hg') (holds_of_generation hg))

lemma opened (h : a.Coherent) {n : Nat} {k : Call} (hk : a.calls[n]? = some k)
    (hg : k.phase.generation? = some a.generation) (hs : a.shutDown = false) :
    Coherent { a.setPhase n (.settled (some true)) with
      reader := some a.generation
      state := .connected
      readers := a.readers ++ [a.generation] } := by
  have hmem := List.mem_of_getElem? hk
  obtain ⟨-, -, ht, ha⟩ := h.pending k hmem hg
  have hnew : a.generation ∉ a.readers := fun hr => by
    have := h.reader_current hr
    rw [h.reader_none_of_pending hmem hg] at this
    contradiction
  refine { h with
    right := ?_, pending_le := ?_, pending := ?_, connecting := ?_, connected := ?_, reader := ?_,
    readers_le := ?_, readers_nodup := ?_, reader_current := ?_, timer := ?_, timers_le := ?_ }
  · have hr := h.right_setPhase (.settled (some true)) hk
    rw [holds_of_generation hg] at hr
    exact Nat.add_right_cancel hr
  · exact h.pending_le_setPhase hk rfl
  · intro k' hk' hg'
    exact absurd hg' (h.not_pending_settled hk hg hk')
  · intro _ hc
    cases hc
  · intro _ _
    rfl
  · intro g hg'
    obtain rfl := Option.some.inj hg'
    exact ⟨rfl, by simp, hs, rfl, by simp [setPhase, ht], ha⟩
  · intro g hg'
    obtain hg' | hg' := List.mem_append.1 hg'
    · exact h.readers_le g hg'
    · exact Nat.le_of_eq (List.mem_singleton.1 hg')
  · rw [List.nodup_append]
    refine ⟨h.readers_nodup, by simp, ?_⟩
    intro x hx y hy he
    rw [List.mem_singleton.1 hy] at he
    exact hnew (he ▸ hx)
  · intro _
    rfl
  · intro t ht
    have hn := h.timer_none_of_pending hmem hg
    exact absurd (hn.symm.trans ht) (by simp)
  · exact fun u hu => h.timers_le u (knows_setPhase hk hu)

lemma failed (h : a.Coherent) {n : Nat} {k : Call} (r : Option Bool) (hk : a.calls[n]? = some k)
    (hg : k.phase.generation? = some a.generation) :
    Coherent { a.setPhase n (.settled r) with state := .disconnected } := by
  have hmem := List.mem_of_getElem? hk
  refine { h with
    right := ?_, pending_le := ?_, pending := ?_, connecting := ?_, connected := ?_, reader := ?_,
    timer := ?_, timers_le := ?_ }
  · have hr := h.right_setPhase (.settled r) hk
    rw [holds_of_generation hg] at hr
    exact Nat.add_right_cancel hr
  · exact h.pending_le_setPhase hk rfl
  · intro k' hk' hg'
    exact absurd hg' (h.not_pending_settled hk hg hk')
  · intro _ hc
    cases hc
  · intro _ hc
    cases hc
  · intro g hg'
    have hn := h.reader_none_of_pending hmem hg
    exact absurd (hn.symm.trans hg') (by simp)
  · intro t ht
    have hn := h.timer_none_of_pending hmem hg
    exact absurd (hn.symm.trans ht) (by simp)
  · exact fun u hu => h.timers_le u (knows_setPhase hk hu)

/-- A reader may stop if it is not the one that the channel is read by. -/
lemma leave (h : a.Coherent) {r g : Nat} (hr : a.readers[r]? = some g)
    (hg : a.reader = some g → a.generation = g → a.shutDown = true) :
    Coherent { a with readers := a.readers.eraseIdx r } :=
  { h with
    reader := by
      intro x hx
      obtain ⟨he, hmem, hs, hrest⟩ := h.reader x hx
      refine ⟨he, ?_, hs, hrest⟩
      obtain ⟨j, hj⟩ := List.mem_iff_getElem?.1 hmem
      refine List.mem_eraseIdx_iff_getElem?.2 ⟨j, ?_, hj⟩
      rintro rfl
      obtain rfl := Option.some.inj (hr.symm.trans hj)
      rw [hg hx he.symm] at hs
      contradiction
    readers_le := fun x hx => h.readers_le x (List.mem_of_mem_eraseIdx hx)
    readers_nodup := h.readers_nodup.eraseIdx r
    reader_current := fun hx => h.reader_current (List.mem_of_mem_eraseIdx hx) }

lemma lose (h : a.Coherent) {r g : Nat} {timer : Option Timer} (hr : a.readers[r]? = some g)
    (hg : a.generation = g) (hs : a.shutDown = false)
    (ht : timer = a.timer ∨ ∃ t, timer = some t ∧ t.generation = g ∧ a.target = some t.target ∧
      a.state = .connected ∧ a.reconnectAllowed = true) :
    Coherent { a with
      reader := none
      state := .disconnected
      timer := timer
      readers := a.readers.eraseIdx r } := by
  have hread : a.reader = some g := by
    rw [← hg]
    exact h.reader_current (hg ▸ List.mem_of_getElem? hr)
  obtain ⟨-, -, -, hstate, -⟩ := h.reader g hread
  have hnone : a.timer = none := by
    cases htm : a.timer with
    | none => rfl
    | some t =>
      obtain ⟨-, -, hd, -⟩ := h.timer t htm
      rw [hstate] at hd
      contradiction
  have hset : ∀ t, timer = some t → t.generation = g ∧ a.target = some t.target ∧
      a.reconnectAllowed = true := by
    intro t htm
    obtain rfl | ⟨u, rfl, hug, hut, -, hua⟩ := ht
    · exact absurd (hnone.symm.trans htm) (by simp)
    · obtain rfl := Option.some.inj htm
      exact ⟨hug, hut, hua⟩
  refine { h with
    pending := ?_, connecting := ?_, connected := ?_, reader := ?_, readers_le := ?_,
    readers_nodup := ?_, reader_current := ?_, timer := ?_, timers_le := ?_, woken := ?_ }
  · intro k hk hkg
    have := h.reader_none_of_pending hk hkg
    exact absurd (hread.symm.trans this) (by simp)
  · intro _ hc
    cases hc
  · intro _ hc
    cases hc
  · intro x hx
    cases hx
  · exact fun x hx => h.readers_le x (List.mem_of_mem_eraseIdx hx)
  · exact h.readers_nodup.eraseIdx r
  · intro hx
    obtain ⟨j, hjr, hj⟩ := List.mem_eraseIdx_iff_getElem?.1 hx
    have hlt := (List.getElem?_eq_some_iff.1 hj).1
    exact absurd ((List.getElem?_inj hlt h.readers_nodup).1 (hj.trans (hg ▸ hr.symm))) hjr
  · intro t htm
    obtain ⟨htg, htt, hta⟩ := hset t htm
    exact ⟨htg.trans hg.symm, hs, rfl, htt, hta⟩
  · rintro u (hu | hu)
    · exact Nat.le_of_eq ((hset u hu).1.trans hg.symm)
    · exact h.timers_le u (.inr hu)
  · intro u hu hug
    exact absurd (hnone.symm.trans (h.woken u hu hug)) (by simp)

lemma tidy (h : a.Coherent) (ht : a.tearing = true) :
    Coherent { a with state := .disconnected, tearing := false } := by
  have hs := h.tearing ht
  refine { h with
    pending := ?_, connecting := ?_, connected := ?_, reader := ?_, timer := ?_, tearing := ?_ }
  · intro k hk hg
    have := (h.pending k hk hg).1
    rw [hs] at this
    contradiction
  · intro _ hc
    cases hc
  · intro _ hc
    cases hc
  · intro g hg
    have := (h.reader g hg).2.2.1
    rw [hs] at this
    contradiction
  · intro t htm
    have := (h.timer t htm).2.1
    rw [hs] at this
    contradiction
  · intro hf
    cases hf

/-- Every move keeps the invariant. -/
theorem move {b : Skeleton} (m : a.Move b) (h : a.Coherent) : b.Coherent := by
  cases m with
  | rest => exact h
  | ring ht hn => exact h.ring ht hn
  | request t => exact h.enter t (by simp)
  | wake ht hg _ _ => exact h.wake ht hg
  | oversleep i => exact h.oversleep i
  | advance hk hh hp hg _ => exact h.proceed hk (by rw [hh]) hp hg
  | claim hk hp ha =>
    refine h.proceed hk ?_ rfl ?_
    · rw [hp, ha]
      rfl
    · rw [hp]
      simp [Phase.generation?]
  | start d hk hp hs => exact h.start d hk hp hs
  | opened hk hp hs => exact h.opened hk hp hs
  | failed r hk hp => exact h.failed r hk hp
  | release hk hp =>
    refine h.proceed hk ?_ rfl ?_
    · rw [hp, h.attempting_of_holds hk (by rw [hp]; rfl)]
      rfl
    · rw [hp]
      simp [Phase.generation?]
  | disconnect => exact h.renew (fun _ => rfl) h.tearing
  | shut hs => exact h.renew (by simp) (fun _ => rfl)
  | tidy ht => exact h.tidy ht
  | shutdown hs => exact h.renew (fun _ => rfl) (fun _ => rfl)
  | leave hr hg => exact h.leave hr hg
  | lose timer hr hg hs ht => exact h.lose hr hg hs ht

end Coherent
end Skeleton

namespace System

lemma coherent_new (settings : ChannelSettings) (capacity : Nat) (credentials : CredentialSlot)
    (clock : Channel.Clock) :
    (System.new (.new settings capacity credentials) clock).skeleton.Coherent := by
  constructor <;> simp [new, Channel.new, skeleton, Channel.control, Skeleton.Knows]

/-- Every run from a new system keeps the invariant. -/
theorem coherent_run (settings : ChannelSettings) (capacity : Nat) (credentials : CredentialSlot)
    (clock : Channel.Clock) (inputs : List Input) :
    ((System.new (.new settings capacity credentials) clock).run inputs).skeleton.Coherent :=
  skeleton_run _ (fun _ _ => Skeleton.Coherent.move) inputs (coherent_new ..)

/-- The generations that a run brings about fit into a word of 64 bits if the run is shorter than
`2 ^ 64` inputs: one input begins at most one. -/
theorem generations_run_lt (settings : ChannelSettings) (capacity : Nat)
    (credentials : CredentialSlot) (clock : Channel.Clock) {inputs : List Input}
    (hlen : inputs.length < 2 ^ 64) :
    let s := (System.new (.new settings capacity credentials) clock).run inputs
    s.channel.generation < 2 ^ 64 ∧
    (∀ k ∈ s.calls, ∀ g, k.phase.generation? = some g → g < 2 ^ 64) ∧
    (∀ g ∈ s.readers, g < 2 ^ 64) ∧ ∀ t, s.Knows t → t.generation < 2 ^ 64 := by
  intro s
  have h : s.skeleton.Coherent := coherent_run ..
  have hle : s.channel.generation ≤ 0 + inputs.length := generation_run_le _ inputs
  have hlt : s.channel.generation < 2 ^ 64 := by omega
  exact ⟨hlt, fun k hk g hg => Nat.lt_of_le_of_lt (h.pending_le k hk g hg) hlt,
    fun g hg => Nat.lt_of_le_of_lt (h.readers_le g hg) hlt,
    fun t ht => Nat.lt_of_le_of_lt (h.timers_le t ht) hlt⟩

end System
end LiveTelemetry
