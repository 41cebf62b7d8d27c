import LiveTelemetry.Proofs.Channel.Course
import LiveTelemetry.Proofs.Channel.Rejection
import Mathlib.Data.List.Induction

/-!
Where the errors of a channel come from. Main statement: the error that a channel shows after a run
was left behind by one input of this run, and by what is said here.
-/
namespace LiveTelemetry.System

/-- With an input an error is left behind. -/
inductive Leaves (s : System) : Input → Failure → Prop
  | rejected {n : Nat} {k : Call} {r : Channel.Rejection} {f : Failure} (hk : s.calls[n]? = some k)
    (hr : s.channel.RejectsAt k.target k.phase r) (hf : r.error? = some f) : Leaves s (.proceed n) f
  | refused (n : Nat) (f : Failure) : Leaves s (.outcome n (.failed f)) f
  | overdue (n : Nat) (o : Outcome) :
    Leaves s (.outcome n o) (Channel.expired s.channel.settings)
  | expired (n : Nat) : Leaves s (.expire n) (Channel.expired s.channel.settings)
  | abandoned (n : Nat) : Leaves s (.abandon n) Channel.cancelled
  | undecodable (r : Nat) (f : Frame) : Leaves s (.frame r f) Channel.undecodable
  | notUnderstood (r : Nat) (f : Frame) (x : Message.Refusal) : Leaves s (.frame r f) x.toFailure
  | closed (r : Nat) : Leaves s (.ending r .closed) Channel.closedByBackend
  | broken (r : Nat) (f : Failure) : Leaves s (.ending r (.failed f)) f

variable {s : System}

/-- The error of a channel stays, is forgotten, or is left behind by an input. -/
def Explains (s : System) (i : Input) (c : Channel) : Prop :=
  c.lastError = s.channel.lastError ∨ c.lastError = none ∨
    ∃ f, c.lastError = some f ∧ s.Leaves i f

lemma explains_settle (g : Nat) (o : Outcome) {i : Input} (h : ∀ f, o = .failed f → s.Leaves i f) :
    s.Explains i (s.channel.settle g o).1 := by
  cases o with
  | opened =>
    simp only [Channel.settle]
    split_ifs
    · exact .inr (.inl rfl)
    · exact .inl rfl
  | failed f => exact .inr (.inr ⟨f, rfl, h f rfl⟩)

lemma explains_conclude (n : Nat) (o : Outcome) {i : Input}
    (h : ∀ d f, Channel.timely s.clock.now d o s.channel.settings = .failed f → s.Leaves i f) :
    s.Explains i (s.conclude n o).channel := by
  unfold conclude
  split
  · exact explains_settle _ _ (h _)
  · exact .inl rfl

lemma explains_proceed (n : Nat) : s.Explains (.proceed n) (s.step (.proceed n)).channel := by
  cases hk : s.calls[n]? with
  | none => exact .inl (by simp only [step, proceed, hk])
  | some k =>
    rw [proceed_eq hk]
    by_cases hb : ∀ u, k.phase = .prepared u → s.channel.shutDown = true
    · rcases (Channel.spares_proceed s.clock.now k.target hb).lastError with h | ⟨r, hr, h⟩
      · exact .inl h
      · cases hf : r.error? with
        | none => exact .inr (.inl (h.trans hf))
        | some f => exact .inr (.inr ⟨f, h.trans hf, .rejected hk hr hf⟩)
    · push Not at hb
      obtain ⟨u, hp, hs⟩ := hb
      rw [hp]
      exact .inl (by simp [Channel.proceed, Channel.start, setPhase, Channel.renew, hs])

lemma explains_frame (r : Nat) (f : Frame) :
    s.Explains (.frame r f) (s.step (.frame r f)).channel := by
  have hroute : ∀ raw, s.Explains (.frame r f) (s.channel.route s.clock raw) := by
    intro raw
    unfold Channel.route
    dsimp only
    split
    · exact .inl rfl
    · exact .inl rfl
    · exact .inr (.inr ⟨_, rfl, .notUnderstood r f _⟩)
  simp only [step, frame]
  split
  · exact .inl rfl
  · cases f with
    | idle => exact .inl rfl
    | text raw =>
      simp only [Channel.deliver]
      split_ifs
      · exact hroute raw
      · exact .inl rfl
    | binary octets =>
      simp only [Channel.deliver]
      split_ifs
      · split
        · exact hroute _
        · exact .inr (.inr ⟨_, rfl, .undecodable r _⟩)
      · exact .inl rfl

lemma explains_ending (r : Nat) (e : Ending) :
    s.Explains (.ending r e) (s.step (.ending r e)).channel := by
  simp only [step, ending]
  split
  · exact .inl rfl
  · have hschedule : ∀ (c : Channel) (now g : Nat), (c.schedule now g).lastError = c.lastError := by
      intro c now g
      unfold Channel.schedule
      split <;> rfl
    simp only [Channel.finish]
    split_ifs
    · cases e with
      | closed => exact .inr (.inr ⟨_, hschedule _ _ _, .closed r⟩)
      | failed f => exact .inr (.inr ⟨_, hschedule _ _ _, .broken r f⟩)
    · cases e with
      | closed => exact .inr (.inr ⟨_, rfl, .closed r⟩)
      | failed f => exact .inr (.inr ⟨_, rfl, .broken r f⟩)
    · exact .inl rfl

lemma explains_step (s : System) (i : Input) : s.Explains i (s.step i).channel := by
  cases i with
  | proceed n => exact explains_proceed n
  | outcome n o =>
    refine explains_conclude n o fun d f h => ?_
    unfold Channel.timely at h
    split_ifs at h
    · rw [← Outcome.failed.inj h]
      exact .overdue n o
    · rw [h]
      exact .refused n f
  | expire n =>
    simp only [step, expire]
    split
    · split_ifs
      · refine explains_conclude n _ fun d f h => ?_
        unfold Channel.timely at h
        rw [ite_self, Outcome.failed.injEq] at h
        rw [← h]
        exact .expired n
      · exact .inl rfl
    · exact .inl rfl
  | abandon n =>
    simp only [step, abandon]
    split
    · simp only [Channel.abandon]
      split_ifs
      · exact .inr (.inr ⟨_, rfl, .abandoned n⟩)
      · exact .inl rfl
    · exact .inl rfl
    · exact .inl rfl
  | frame r f => exact explains_frame r f
  | ending r e => exact explains_ending r e
  | shutdown =>
    simp only [step, Channel.shutdown, Channel.shut]
    split_ifs <;> exact .inl rfl
  | shut =>
    simp only [step, shut, Channel.shut]
    split_ifs <;> exact .inl rfl
  | tidy =>
    simp only [step, tidy]
    split_ifs <;> exact .inl rfl
  | stop r =>
    simp only [step, stop]
    split
    · exact .inl rfl
    · split_ifs <;> exact .inl rfl
  | wake n =>
    simp only [step, wake, Channel.wake]
    split
    · exact .inl rfl
    · split_ifs <;> exact .inl rfl
  | connect | disconnect | pass | credential | clearStore | subscribe | unsubscribe =>
    exact .inl rfl

/-- The error that a channel shows after a run is the one that it showed before, or was left behind
by an input of the run. -/
theorem leaves_of_run (s : System) (inputs : List Input) {f : Failure}
    (h : (s.run inputs).channel.lastError = some f) :
    s.channel.lastError = some f ∨
      ∃ before i after, inputs = before ++ i :: after ∧ (s.run before).Leaves i f := by
  induction inputs using List.reverseRecOn with
  | nil => exact .inl h
  | append_singleton inputs i ih =>
    rw [run_snoc] at h
    rcases (s.run inputs).explains_step i with hsame | hnone | ⟨f', hf', hl⟩
    · rcases ih (hsame.symm.trans h) with h | ⟨before, j, after, rfl, hl⟩
      · exact .inl h
      · exact .inr ⟨before, j, after ++ [i], by simp, hl⟩
    · cases hnone.symm.trans h
    · obtain rfl := Option.some.inj (hf'.symm.trans h)
      exact .inr ⟨inputs, i, [], rfl, hl⟩

end LiveTelemetry.System
