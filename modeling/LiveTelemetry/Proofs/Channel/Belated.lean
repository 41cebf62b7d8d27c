import LiveTelemetry.Proofs.Channel.Settlement

/-!
Handshakes that end after their attempt was superseded by a disconnection or a teardown. Main
statement: nothing comes of them but the error of one that has failed, so that those that end
otherwise go unnoticed.
-/
namespace LiveTelemetry

namespace Verdict

/-- The error that is recorded of a handshake even if its attempt is not in force any more. -/
def failure? (s : ChannelSettings) : Verdict → Option Failure
  | refused reason => some (.ofChannel reason)
  | late => some (Channel.expired s)
  | opened | abandoned => none

/-- What the call returns whose attempt is not in force any more. -/
def belated : Verdict → Option Bool
  | opened | refused _ | late => some false
  | abandoned => none

lemma belated_ne (v : Verdict) : v.belated ≠ some true := by
  cases v <;> simp [belated]

end Verdict

/-- Whether a disconnection takes place, or a teardown of which the second half may be to come. -/
def Input.closes : Input → Bool
  | .disconnect | .shutdown | .shut => true
  | _ => false

/-- The end of an attempt that is not in force any more. -/
lemma Channel.conclude_of_lt {g : Nat} {c : Channel} (h : g < c.generation) (v : Verdict) :
    c.conclude g v = ({ c with lastError := (v.failure? c.settings).or c.lastError },
      .settled v.belated) := by
  have hne : c.generation ≠ g := Nat.ne_of_gt h
  have hc : ¬c.isCurrent g = true := fun hc => hne (isCurrent_iff.1 hc).1
  cases v with
  | opened => rw [conclude, settle, if_neg hc]; rfl
  | refused reason => rw [conclude, settle, if_neg hne]; rfl
  | late => rw [conclude, settle, if_neg hne]; rfl
  | abandoned => rw [conclude, abandon, if_neg hc]; rfl

namespace System

variable {s : System} {n : Nat} {t : Target} {g : Nat} {u : Url} {d : Nat} {x : Option Timer}
  {i : Input} {v : Verdict}

/-- After a disconnection or a teardown no handshake is of the generation in force. -/
lemma lt_generation_of_closes (h : s.skeleton.Coherent)
    (hk : s.calls[n]? = some ⟨t, .opening g u d, x⟩) (hi : i.closes = true) :
    g < (s.step i).channel.generation := by
  have hmem := List.mem_of_getElem? hk
  have hle : g ≤ s.channel.generation := h.pending_le _ hmem g rfl
  -- A channel that is shut down already has no handshake of the generation in force.
  have hlt : s.channel.shutDown = true → g < s.channel.generation := fun hs =>
    Nat.lt_of_le_of_ne hle fun he => by
      subst he
      exact absurd ((h.pending _ hmem rfl).1.symm.trans hs) Bool.false_ne_true
  have hshut : g < s.channel.shut.generation := by
    unfold Channel.shut
    split_ifs with hs
    · exact hlt hs
    · exact Nat.lt_succ_of_le hle
  cases i with
  | disconnect => exact Nat.lt_succ_of_le hle
  | shut => exact hshut
  | shutdown =>
    simp only [step, Channel.shutdown]
    split_ifs with hs
    · exact hlt hs
    · exact hshut
  | _ => cases hi

/-- What comes of the handshake of a call whose attempt is not in force any more. -/
structure Belates (y : System) (n : Nat) (v : Verdict) (z : System) : Prop where
  /-- Of the channel nothing changes but the error, and no reader comes or goes. -/
  rest : z = y.put n ({ y.channel with
    lastError := (v.failure? y.channel.settings).or y.channel.lastError }, .settled v.belated)
  silent_iff : z = y.setPhase n (.settled v.belated) ↔
    ∀ f, v.failure? y.channel.settings = some f → y.channel.lastError = some f
  result : ∀ more, (z.run more).result? n ≠ some true

lemma or_eq_right_iff {α : Type} {a b : Option α} : a.or b = b ↔ ∀ f, a = some f → b = some f := by
  cases a with
  | none => simp
  | some f => simp [eq_comm]

lemma belates_of_ends {y : System} (hg : g < y.channel.generation)
    (hk : y.calls[n]? = some ⟨t, .opening g u d, x⟩) (he : y.Ends n d i v) :
    y.Belates n v (y.step i) := by
  have hrest : y.step i = y.put n ({ y.channel with
      lastError := (v.failure? y.channel.settings).or y.channel.lastError },
      .settled v.belated) := by
    rw [step_of_ends hk he, conclusion, Channel.conclude_of_lt hg]
    cases v <;> rfl
  refine ⟨hrest, ?_, fun more => ?_⟩
  · rw [hrest, ← or_eq_right_iff]
    constructor
    · intro h
      exact congrArg (fun z => z.channel.lastError) h
    · intro h
      rw [h]
      rfl
  · have hset : (y.step i).HasResult n v.belated := by
      rw [hrest]
      exact ⟨_, getElem?_setPhase_self _ hk, .inl rfl⟩
    obtain hr | hr := (hset.run more).result_eq <;> rw [hr]
    · simp
    · exact v.belated_ne

/-- In every run a handshake that ends after its attempt was superseded by a disconnection or a
teardown changes nothing but the recorded error, and this only if it has failed. -/
theorem belated_run (settings : ChannelSettings) (capacity : Nat) (credentials : CredentialSlot)
    (clock : Channel.Clock) (inputs : List Input) :
    let s := (new (.new settings capacity credentials) clock).run inputs
    ∀ n t g u d x, s.calls[n]? = some ⟨t, .opening g u d, x⟩ → ∀ i, i.closes = true → ∀ later,
      let y := (s.step i).run later
      y.calls[n]? = some ⟨t, .opening g u d, x⟩ →
        (∀ j, j.FromChannel → (y.step j).calls[n]? = y.calls[n]? ∨ ∃ v, y.Ends n d j v) ∧
        ∀ j v, y.Ends n d j v → y.Belates n v (y.step j) := by
  intro s n t g u d x hk i hi later y hy
  have hg : g < y.channel.generation :=
    lt_generation_run _ (lt_generation_of_closes (coherent_run ..) hk hi) later
  exact ⟨fun j hj => or_iff_not_imp_left.2 (ends_of_step hy hj),
    fun j v he => belates_of_ends hg hy he⟩

/-- The handshake of a call is awaited. -/
def dialling : List Input :=
  [.connect ⟨"r1"⟩ "", .proceed 0, .proceed 0, .proceed 0, .proceed 0]

/-- A call is given up after a disconnection. -/
theorem belated_dialling : ∃ u d,
    (resting.run dialling).calls[0]? = some ⟨⟨⟨"r1"⟩, "generic"⟩, .opening 1 u d, none⟩ ∧
    ((resting.run dialling).step .disconnect).calls[0]? =
      some ⟨⟨⟨"r1"⟩, "generic"⟩, .opening 1 u d, none⟩ ∧
    ((resting.run dialling).step .disconnect).Ends 0 d (.abandon 0) .abandoned ∧
    ((resting.run dialling).step .disconnect).Belates 0 .abandoned
      (((resting.run dialling).step .disconnect).step (.abandon 0)) := by
  refine ⟨_, _, rfl, rfl, .abandoned, ?_⟩
  exact (belated_run {} 50 (.ofToken (some "t")) ⟨0, "now"⟩ dialling 0 _ 1 _ _ none rfl
    .disconnect rfl [] rfl).2 _ _ .abandoned

/-- A handshake that fails after a disconnection or a teardown, refused or too late, records its
failure, although its attempt was superseded. -/
theorem belated_failures_recorded :
    ((resting.run dialling).waitingFor? 0).isSome ∧
    (∀ i ∈ [Input.disconnect, .shutdown],
      ((resting.run dialling).step i).channel.lastError = none ∧
      (((resting.run dialling).step i).step
        (.outcome 0 (.failed (.ofChannel "refused")))).channel.lastError =
          some (.ofChannel "refused") ∧
      (((resting.run dialling).step i).run [.pass 10000, .expire 0]).channel.lastError =
        some (Channel.expired {})) := by
  decide +kernel

end System
end LiveTelemetry
