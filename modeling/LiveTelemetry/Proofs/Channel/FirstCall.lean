import LiveTelemetry.Proofs.Channel.Course
import LiveTelemetry.Proofs.Channel.Uninterrupted

/-!
The first call on a channel, and what it leaves to those that come after. Main statements: the call
waits for its handshake or has failed; what a call has returned stands; and the credential that is
held changes only with the slot.
-/
namespace LiveTelemetry

namespace Channel

variable {c : Channel} {t : Target}

lemma credentials_route (clock : Clock) (raw : String) (c : Channel) :
    (c.route clock raw).credentials = c.credentials := by
  unfold route
  dsimp only
  split <;> rfl

lemma credentials_deliver (clock : Clock) (g : Nat) (f : Frame) (c : Channel) :
    (c.deliver clock g f).1.credentials = c.credentials := by
  unfold deliver
  split
  · rfl
  · split_ifs
    · exact credentials_route ..
    · rfl
  · split_ifs
    · split
      · exact credentials_route ..
      · rfl
    · rfl

lemma credentials_finish (now g : Nat) (e : Ending) (c : Channel) :
    (c.finish now g e).credentials = c.credentials := by
  unfold finish schedule
  split_ifs
  · dsimp only
    split <;> rfl
  · rfl
  · rfl

lemma credentials_wake (t : Timer) (c : Channel) : (c.wake t).1.credentials = c.credentials := by
  unfold wake
  split_ifs <;> rfl

lemma credentials_settle (g : Nat) (o : Outcome) (c : Channel) :
    (c.settle g o).1.credentials = c.credentials := by
  cases o with
  | opened =>
    simp only [settle]
    split_ifs <;> rfl
  | failed => rfl

lemma credentials_abandon (g : Nat) (c : Channel) :
    (c.abandon g).1.credentials = c.credentials := by
  unfold abandon
  split_ifs <;> rfl

lemma credentials_proceed (now : Nat) (t : Target) (p : Phase) (c : Channel) :
    (c.proceed now t p).1.credentials = c.credentials := by
  cases p with
  | entered =>
    simp only [proceed, check]
    split_ifs <;> rfl
  | checked =>
    simp only [proceed, claim]
    split_ifs <;> rfl
  | claimed =>
    simp only [proceed, prepare]
    split
    · rfl
    · split <;> rfl
  | prepared =>
    simp only [proceed, start]
    split_ifs <;> rfl
  | _ => rfl

lemma credentials_shut (c : Channel) : c.shut.credentials = c.credentials := by
  unfold shut
  split_ifs <;> rfl

lemma credentials_shutdown (c : Channel) : c.shutdown.credentials = c.credentials := by
  unfold shutdown
  split_ifs
  · rfl
  · exact c.credentials_shut

end Channel

namespace System

variable {s : System} {n : Nat} {k : Call} {r : Bool}

lemma credentials_conclude (n : Nat) (o : Outcome) (s : System) :
    (s.conclude n o).channel.credentials = s.channel.credentials := by
  unfold conclude
  split
  · exact Channel.credentials_settle ..
  · rfl

/-- The credential that is held changes only with the slot. -/
lemma credentials_step {i : Input} (hi : ∀ k, i ≠ .credential k) (s : System) :
    (s.step i).channel.credentials = s.channel.credentials := by
  cases i with
  | credential k => exact absurd rfl (hi k)
  | proceed n =>
    simp only [step, proceed]
    split
    · rfl
    · exact Channel.credentials_proceed ..
  | outcome n o => exact credentials_conclude ..
  | expire n =>
    simp only [step, expire]
    split
    · split_ifs
      · exact credentials_conclude ..
      · rfl
    · rfl
  | abandon n =>
    simp only [step, abandon]
    split
    · exact Channel.credentials_abandon ..
    · rfl
    · rfl
  | frame r f =>
    simp only [step, frame]
    split
    · rfl
    · exact Channel.credentials_deliver ..
  | ending r e =>
    simp only [step, ending]
    split
    · rfl
    · exact Channel.credentials_finish ..
  | stop r =>
    simp only [step, stop]
    split
    · rfl
    · split_ifs <;> rfl
  | wake j =>
    simp only [step, wake]
    split
    · rfl
    · split <;> exact Channel.credentials_wake ..
  | tidy =>
    simp only [step, tidy]
    split_ifs <;> rfl
  | shut => exact Channel.credentials_shut _
  | shutdown => exact Channel.credentials_shutdown _
  | _ => rfl

lemma credentials_run {is : List Input} (hi : ∀ i ∈ is, ∀ k, i ≠ .credential k) (s : System) :
    (s.run is).channel.credentials = s.channel.credentials := by
  induction is generalizing s with
  | nil => rfl
  | cons i is ih =>
    exact (ih (fun j hj => hi j (.tail _ hj)) _).trans (credentials_step (hi i (.head _)) s)

/-- What a call has returned stands. -/
lemma result?_step (h : s.result? n = some r) (i : Input) : (s.step i).result? n = some r := by
  obtain ⟨k, hk, hp⟩ : ∃ k, s.calls[n]? = some k ∧ k.phase = .finished (some r) := by
    unfold result? at h
    split at h
    · next t r' x hk => exact ⟨_, hk, congrArg Phase.finished h⟩
    · cases h
  obtain ⟨p, hk', turn⟩ := exists_turn_step hk i
  have hfinished : p = .finished (some r) := by
    cases turn with
    | stay => exact hp
    | proceed => rw [hp]; rfl
    | conclude _ _ hq | abandon hq | giveUp hq => exact absurd (hq.symm.trans hp) (by simp)
  simp only [result?, hk', hfinished]

/-- A call on a channel that is not open waits for its handshake, or has failed. -/
lemma call_cases (h : s.channel.state ≠ .connected) (device : DeviceId) (vendor : String) :
    ((s.call device vendor).1.waitingFor? s.calls.length).isSome = true ∨
      (s.call device vendor).1.result? s.calls.length = some false := by
  have hcall : (s.call device vendor).1 =
      (s.enter (.ofRequest s.channel.settings device vendor) none).settleCall s.calls.length := rfl
  rw [hcall]
  by_cases ha : ∃ u, s.channel.Accepts (.ofRequest s.channel.settings device vendor) u
  · obtain ⟨u, hu⟩ := ha
    left
    rw [settleCall_enter_of_accepts hu]
    simp [waitingFor?]
  · right
    obtain hp | ⟨r, hr⟩ := Channel.present_or_rejects (not_exists.1 ha)
    · exact absurd hp.state h
    · rw [settleCall_enter, Channel.carry_of_rejects _ hr]
      simp [result?]

/-- A call returns with the end of its handshake. -/
lemma exists_result_answer (h : (s.waitingFor? n).isSome = true) (o : Outcome) :
    ∃ r, (s.answer n o).result? n = some r := by
  obtain ⟨t, g, u, d, x, hk⟩ : ∃ t g u d x, s.calls[n]? = some ⟨t, .opening g u d, x⟩ := by
    unfold waitingFor? at h
    split at h
    · next t g u d x hk => exact ⟨t, g, u, d, x, hk⟩
    · cases h
  obtain ⟨r, hr⟩ := exists_settle g (Channel.timely s.clock.now d o s.channel.settings) s.channel
  have hset : (s.conclude n o).calls[n]? = some ⟨t, .settled (some r), x⟩ := by
    simp only [conclude, hk, hr]
    exact getElem?_setPhase_self _ hk
  refine ⟨r, ?_⟩
  rw [answer, settleCall_of_settled hset rfl]
  have hend : ((s.conclude n o).put n ({ (s.conclude n o).channel with attempting := false },
      .finished (some r))).calls[n]? = some ⟨t, .finished (some r), x⟩ :=
    getElem?_setPhase_self _ hset
  simp only [result?, hend]

lemma credentials_settleCall (n : Nat) (s : System) :
    (s.settleCall n).channel.credentials = s.channel.credentials :=
  credentials_run (fun i hi k hk => by simp [hk] at hi) s

lemma credentials_call (device : DeviceId) (vendor : String) (s : System) :
    (s.call device vendor).1.channel.credentials = s.channel.credentials :=
  credentials_settleCall ..

lemma credentials_answer (n : Nat) (o : Outcome) (s : System) :
    (s.answer n o).channel.credentials = s.channel.credentials :=
  (credentials_settleCall ..).trans (credentials_conclude ..)

end System
end LiveTelemetry
