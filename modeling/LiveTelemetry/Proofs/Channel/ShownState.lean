import LiveTelemetry.Proofs.Channel.Coherence
import Mathlib.Data.List.Nodup

/-!
The state that a channel shows. Main statement: as long as the channel is not shut down, whatever
calls, readers and timers do and in whichever order, the state says what is true of them.
-/
namespace LiveTelemetry.System

/-- The state of the channel says whether it is open, and whether an attempt to open it runs. -/
structure Truthful (s : System) : Prop where
  connected_iff : s.channel.state = .connected ↔ s.channel.reader.isSome
  reader : ∀ g, s.channel.reader = some g →
    g = s.channel.generation ∧ s.readers.count s.channel.generation = 1
  connecting : s.channel.state = .connecting →
    s.channel.attempting = true ∧ s.channel.reader = none ∧
      ∀ k ∈ s.calls, ∀ g, k.phase.generation? = some g → g = s.channel.generation
  /-- Some attempt runs, and however it ends, the channel does not stay as it is. -/
  notStuck : s.channel.state = .connecting → ∃ n t u d x,
    s.calls[n]? = some ⟨t, .opening s.channel.generation u d, x⟩ ∧
      (∀ o, (s.step (.outcome n o)).channel.state ≠ .connecting) ∧
      (s.step (.abandon n)).channel.state = .disconnected
  timer : ∀ t, s.channel.timer = some t →
    s.channel.state = .disconnected ∧ s.channel.reader = none ∧
      t.generation = s.channel.generation
  oneAttempt : s.calls.countP (fun k => k.phase.holds) = s.channel.attempting.toNat
  oneReader : s.readers.count s.channel.generation ≤ 1

variable {s : System}

lemma state_outcome {n : Nat} {t : Target} {g : Nat} {u : Url} {d : Nat} {x : Option Timer}
    (hk : s.calls[n]? = some ⟨t, .opening g u d, x⟩) (hg : s.channel.isCurrent g = true)
    (o : Outcome) : (s.step (.outcome n o)).channel.state ≠ .connecting := by
  simp only [step, conclude, hk]
  cases Channel.timely s.clock.now d o s.channel.settings with
  | opened => simp [Channel.settle, hg, setPhase]
  | failed f => simp [Channel.settle, (Channel.isCurrent_iff.1 hg).1, setPhase]

lemma state_abandon {n : Nat} {t : Target} {g : Nat} {u : Url} {d : Nat} {x : Option Timer}
    (hk : s.calls[n]? = some ⟨t, .opening g u d, x⟩) (hg : s.channel.isCurrent g = true) :
    (s.step (.abandon n)).channel.state = .disconnected := by
  simp [step, abandon, hk, Channel.abandon, hg, setPhase]

lemma Truthful.of_coherent (h : s.skeleton.Coherent) (hs : s.channel.shutDown = false) :
    s.Truthful where
  connected_iff := by
    constructor
    · intro hc
      rw [show s.channel.reader = some s.channel.generation from h.connected hs hc]
      rfl
    · intro hr
      obtain ⟨g, hg⟩ := Option.isSome_iff_exists.1 hr
      exact (h.reader g hg).2.2.2.1
  reader g hg := by
    obtain ⟨rfl, hmem, -⟩ := h.reader g hg
    exact ⟨rfl, List.count_eq_one_of_mem h.readers_nodup hmem⟩
  connecting hc := by
    obtain ⟨k, hk, hg⟩ := h.connecting hs hc
    obtain ⟨n, hn⟩ := List.mem_iff_getElem?.1 hk
    refine ⟨h.attempting_of_holds hn (Skeleton.Coherent.holds_of_generation hg),
      h.reader_none_of_pending hk hg, ?_⟩
    intro k' hk' g hg'
    obtain ⟨m, hm⟩ := List.mem_iff_getElem?.1 hk'
    obtain rfl := h.holder_unique hn hm (Skeleton.Coherent.holds_of_generation hg)
      (Skeleton.Coherent.holds_of_generation hg')
    obtain rfl := Option.some.inj (hn.symm.trans hm)
    exact Option.some.inj (hg'.symm.trans hg)
  notStuck hc := by
    obtain ⟨k, hk, hg⟩ := h.connecting hs hc
    obtain ⟨n, hn⟩ := List.mem_iff_getElem?.1 hk
    obtain ⟨t, p, x⟩ := k
    cases p with
    | opening g u d =>
      obtain rfl := Option.some.inj hg
      have hcur : s.channel.isCurrent s.channel.generation = true :=
        Channel.isCurrent_iff.2 ⟨rfl, hs⟩
      exact ⟨n, t, u, d, x, hn, state_outcome hn hcur, state_abandon hn hcur⟩
    | _ => cases hg
  timer t ht := by
    obtain ⟨hg, -, hd, -⟩ := h.timer t ht
    refine ⟨hd, ?_, hg⟩
    by_contra hr
    obtain ⟨g, hgr⟩ := Option.ne_none_iff_exists'.1 hr
    have hcn : s.channel.state = .connected := (h.reader g hgr).2.2.2.1
    exact absurd (hcn.symm.trans hd) (by decide)
  oneAttempt := h.right
  oneReader := List.nodup_iff_count_le_one.1 h.readers_nodup _

/-- In no run does the state mislead before the channel is shut down. -/
theorem truthful_run (settings : ChannelSettings) (capacity : Nat) (credentials : CredentialSlot)
    (clock : Channel.Clock) (inputs : List Input)
    (hs : ((new (.new settings capacity credentials) clock).run inputs).channel.shutDown = false) :
    ((new (.new settings capacity credentials) clock).run inputs).Truthful :=
  .of_coherent (coherent_run ..) hs

/-- A channel was opened and lost, and the reconnection waits for its handshake. -/
def reconnecting : List Input :=
  [.connect ⟨"r1"⟩ "", .proceed 0, .proceed 0, .proceed 0, .proceed 0, .outcome 0 .opened,
    .proceed 0, .ending 0 .closed, .pass 5000, .wake 0, .proceed 1, .proceed 1, .proceed 1,
    .proceed 1]

theorem truthful_reconnecting :
    (resting.run reconnecting).channel.shutDown = false ∧
      (resting.run reconnecting).channel.state = .connecting ∧
      (resting.run reconnecting).Truthful :=
  ⟨by decide +kernel, by decide +kernel, truthful_run _ _ _ _ reconnecting (by decide +kernel)⟩

end LiveTelemetry.System
