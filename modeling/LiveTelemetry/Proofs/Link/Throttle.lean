import LiveTelemetry.Link.Throttle
import LiveTelemetry.Proofs.Table

/-!
What a throttle knows of the past. Main statements: as long as the clock does not go back a key is
held back exactly if it was let through less than a window before, so it makes no difference that
entries are given up after ten windows; and ten windows are never too long a time.
-/
namespace LiveTelemetry

/-! ### Spans of time -/

/-- A span of time as it is kept: whole seconds, and nanoseconds beyond them. -/
structure Span where
  seconds : UInt64
  nanoseconds : UInt32

namespace Span

def ofMilliseconds (ms : UInt64) : Span := ⟨ms / 1000, (ms % 1000).toUInt32 * 1000000⟩

/-- The span in nanoseconds. -/
def total (d : Span) : Nat := d.seconds.toNat * 1000000000 + d.nanoseconds.toNat

/-- A multiple of a span, or `none` if it is too long to be kept. -/
def times? (k : UInt32) (d : Span) : Option Span :=
  let beyond := d.nanoseconds.toNat * k.toNat
  let seconds := d.seconds.toNat * k.toNat + beyond / 1000000000
  if seconds < UInt64.size then some ⟨.ofNat seconds, .ofNat (beyond % 1000000000)⟩ else none

lemma toNat_nanoseconds_ofMilliseconds (ms : UInt64) :
    (ofMilliseconds ms).nanoseconds.toNat = ms.toNat % 1000 * 1000000 := by
  simp [ofMilliseconds]
  omega

lemma toNat_seconds_ofMilliseconds (ms : UInt64) :
    (ofMilliseconds ms).seconds.toNat = ms.toNat / 1000 := by
  simp [ofMilliseconds]

lemma total_ofMilliseconds (ms : UInt64) :
    (ofMilliseconds ms).total = (Throttle.ofMilliseconds ms).window := by
  rw [total, toNat_seconds_ofMilliseconds, toNat_nanoseconds_ofMilliseconds,
    Throttle.ofMilliseconds]
  dsimp only
  omega

/-- Ten windows are a span that can be kept, however many milliseconds a window has. -/
theorem exists_times?_ofMilliseconds (ms : UInt64) :
    ∃ d, (ofMilliseconds ms).times? 10 = some d ∧
      d.total = (Throttle.ofMilliseconds ms).window * 10 := by
  have hms : ms.toNat < UInt64.size := ms.toNat_lt
  have hten : (10 : UInt32).toNat = 10 := rfl
  have hseconds : (ofMilliseconds ms).seconds.toNat * (10 : UInt32).toNat +
      (ofMilliseconds ms).nanoseconds.toNat * (10 : UInt32).toNat / 1000000000 <
        UInt64.size := by
    rw [toNat_seconds_ofMilliseconds, toNat_nanoseconds_ofMilliseconds, hten]
    omega
  refine ⟨_, if_pos hseconds, ?_⟩
  have hbeyond : ∀ k, k % 1000000000 < UInt32.size := fun k =>
    Nat.lt_trans (Nat.mod_lt k (by decide)) (by decide)
  rw [total, UInt64.toNat_ofNat_of_lt' hseconds, UInt32.toNat_ofNat_of_lt' (hbeyond _),
    ← total_ofMilliseconds, total, hten]
  omega

end Span

/-! ### Throttles -/

namespace Throttle

/-- Which entries are kept when a key is let through: those of which the age is right, for a window
and at a time. -/
abbrev Rule := Nat → Nat → Nat → Bool

/-- Asks to let a key through, where a rule says which entries are kept. -/
def askKeeping (keeps : Rule) (now : Nat) (key : String) (t : Throttle) : Throttle × Bool :=
  if t.holds now key then (t, false)
  else ({ t with seen := (Table.put key now t.seen).filter fun e => keeps t.window now e.2 }, true)

/-- A rule under which no entry is given up within a window. -/
def Rule.Suffices (keeps : Rule) : Prop :=
  ∀ window now last, last ≤ now → now < last + window → keeps window now last = true

lemma ask_eq : ask = askKeeping fun window now last => now - last < window * 10 := rfl

lemma suffices_ask : Rule.Suffices fun window now last => now - last < window * 10 := by
  intro window now last hle hlt
  apply decide_eq_true
  omega

/-- The answers to keys that are asked for one after the other. -/
def answers (ask : Nat → String → Throttle → Throttle × Bool) : Throttle → List (Nat × String) →
    List Bool
  | _, [] => []
  | t, (now, key) :: asks => (ask now key t).2 :: answers ask (ask now key t).1 asks

/-- All that a throttle has to know of the keys that it has let through, at a time. -/
structure Recalls (t : Throttle) (calls : List (Nat × String)) (now : Nat) : Prop where
  made : ∀ e ∈ t.seen, (e.2, e.1) ∈ calls
  past : ∀ c ∈ calls, c.1 ≤ now
  /-- A call that is less than a window old is known, or a later one with its key. -/
  recent : ∀ c ∈ calls, now < c.1 + t.window →
    ∃ last, Table.lookup c.2 t.seen = some last ∧ c.1 ≤ last

variable {t t' : Throttle} {calls : List (Nat × String)} {now later : Nat} {key : String}
  {keeps : Rule}

lemma recalls_ofMilliseconds (ms : UInt64) (now : Nat) : (ofMilliseconds ms).Recalls [] now :=
  ⟨fun _ h => absurd h List.not_mem_nil, fun _ h => absurd h List.not_mem_nil,
    fun _ h => absurd h List.not_mem_nil⟩

lemma Recalls.mono (h : t.Recalls calls now) (hle : now ≤ later) : t.Recalls calls later where
  made := h.made
  past c hc := Nat.le_trans (h.past c hc) hle
  recent c hc hlt := h.recent c hc (Nat.lt_of_le_of_lt hle hlt)

lemma Recalls.holds_iff (h : t.Recalls calls now) :
    t.holds now key = true ↔ ∃ c ∈ calls, c.2 = key ∧ now < c.1 + t.window := by
  unfold holds
  constructor
  · intro hholds
    split at hholds
    · cases hholds
    · next last hlast =>
      have hmade := h.made _ (Table.mem_of_lookup hlast)
      have hpast := h.past _ hmade
      have hlt := of_decide_eq_true hholds
      refine ⟨_, hmade, rfl, ?_⟩
      simp only at hpast ⊢
      omega
  · rintro ⟨c, hc, rfl, hlt⟩
    obtain ⟨last, hlast, hle⟩ := h.recent c hc hlt
    have hpast := h.past c hc
    rw [hlast]
    apply decide_eq_true
    omega

/-- The calls after an ask. -/
def callsAfter (calls : List (Nat × String)) (now : Nat) (key : String) (allowed : Bool) :
    List (Nat × String) :=
  if allowed then calls ++ [(now, key)] else calls

/-- An ask is recalled in turn, if entries are kept for a window. -/
lemma Recalls.askKeeping (h : t.Recalls calls now) (hkeeps : keeps.Suffices) (key : String) :
    (t.askKeeping keeps now key).1.Recalls
      (callsAfter calls now key (t.askKeeping keeps now key).2) now := by
  unfold Throttle.askKeeping
  split_ifs with hholds
  · exact h
  · have hpast : ∀ c ∈ calls ++ [(now, key)], c.1 ≤ now := by
      intro c hc
      rcases List.mem_append.1 hc with hc | hc
      · exact h.past c hc
      · exact Nat.le_of_eq (congrArg Prod.fst (List.mem_singleton.1 hc))
    refine ⟨fun e he => ?_, hpast, fun c hc hlt => ?_⟩
    · rcases Table.mem_put (List.mem_filter.1 he).1 with rfl | he
      · exact List.mem_append_right _ (List.mem_singleton_self _)
      · exact List.mem_append_left _ (h.made e he)
    · dsimp only at hlt ⊢
      have hle := hpast c hc
      by_cases hkey : c.2 = key
      · rw [hkey]
        have hput := Table.lookup_put_self key now t.seen
        exact ⟨now, Table.lookup_filter_of_lookup hput (hkeeps _ _ _ (Nat.le_refl now) (by omega)),
          hle⟩
      · have hc : c ∈ calls := (List.mem_append.1 hc).resolve_right fun hmem =>
          hkey (congrArg Prod.snd (List.mem_singleton.1 hmem))
        obtain ⟨last, hlast, hle⟩ := h.recent c hc hlt
        have hmade := h.past _ (h.made _ (Table.mem_of_lookup hlast))
        have hput := (Table.lookup_put_of_ne hkey now t.seen).trans hlast
        exact ⟨last, Table.lookup_filter_of_lookup hput (hkeeps _ _ _ hmade (by omega)), hle⟩

lemma askKeeping_snd (keeps : Rule) (now : Nat) (key : String) (t : Throttle) :
    (t.askKeeping keeps now key).2 = !t.holds now key := by
  unfold Throttle.askKeeping
  split_ifs with h <;> simp [h]

@[simp] lemma window_askKeeping (keeps : Rule) (now : Nat) (key : String) (t : Throttle) :
    (t.askKeeping keeps now key).1.window = t.window := by
  unfold Throttle.askKeeping
  split_ifs <;> rfl

/-- Two throttles that recall the same calls give the same answers, whatever else they keep. -/
lemma Recalls.answers_eq {keeps' : Rule} {asks : List (Nat × String)} (h : t.Recalls calls now)
    (h' : t'.Recalls calls now) (hwindow : t.window = t'.window) (hkeeps : keeps.Suffices)
    (hkeeps' : keeps'.Suffices) (hasks : asks.Pairwise fun a b => a.1 ≤ b.1)
    (hlater : ∀ a ∈ asks, now ≤ a.1) :
    answers (Throttle.askKeeping keeps) t asks = answers (Throttle.askKeeping keeps') t' asks := by
  induction asks generalizing t t' calls now with
  | nil => rfl
  | cons a asks ih =>
    obtain ⟨s, key⟩ := a
    obtain ⟨hs, hasks⟩ := List.pairwise_cons.1 hasks
    have hle : now ≤ s := hlater (s, key) List.mem_cons_self
    have hholds : t.holds s key = t'.holds s key := by
      rw [Bool.eq_iff_iff, (h.mono hle).holds_iff, (h'.mono hle).holds_iff, hwindow]
    have hnext := (h.mono hle).askKeeping hkeeps key
    have hnext' := (h'.mono hle).askKeeping hkeeps' key
    rw [askKeeping_snd] at hnext hnext'
    rw [← hholds] at hnext'
    rw [answers, answers, askKeeping_snd, askKeeping_snd, hholds]
    congr 1
    apply ih hnext hnext' _ hasks hs
    rw [window_askKeeping, window_askKeeping, hwindow]

/-- A throttle answers as one does that gives up no entry. -/
theorem answers_ask (ms : UInt64) {asks : List (Nat × String)}
    (hasks : asks.Pairwise fun a b => a.1 ≤ b.1) :
    answers ask (ofMilliseconds ms) asks =
      answers (askKeeping fun _ _ _ => true) (ofMilliseconds ms) asks := by
  rw [ask_eq]
  exact (recalls_ofMilliseconds ms 0).answers_eq (recalls_ofMilliseconds ms 0) rfl suffices_ask
    (fun _ _ _ _ _ => rfl) hasks fun _ _ => Nat.zero_le _

end Throttle
end LiveTelemetry
