import LiveTelemetry.Proofs.Channel.AtRest
import LiveTelemetry.Proofs.Channel.ShownState

/-!
Calls that open nothing. Main statement: in every run a call that is rejected, or that finds the
channel open to its target, dials no address and leaves everything as it was but for the error that
its rejection stands for; and so does each step of a call that other things interrupt.
-/
namespace LiveTelemetry

namespace Channel

/-- The kind of error that a rejected call leaves behind. -/
def Rejection.kind? : Rejection → Option Failure.Kind
  | noDevice | noCredential => some .precondition
  | noAddress _ => some .configuration
  | shutDown | inFlight => none

variable {t : Target} {c : Channel} {r : Rejection}

lemma kind_of_rejectsAt {p : Phase} (h : c.RejectsAt t p r) :
    r.error?.map Failure.kind = r.kind? := by
  cases h with
  | @noAddress k f _ hu =>
    unfold Target.address at hu
    split at hu
    · obtain rfl := Except.error.inj hu
      rfl
    · cases hu
  | _ => rfl

lemma kind_of_rejects (h : c.Rejects t r) : r.error?.map Failure.kind = r.kind? := by
  cases h with
  | entered h | checked _ h | claimed _ _ h => exact kind_of_rejectsAt h

/-- All that a step may change which begins no attempt. -/
structure Spares (t : Target) (p : Phase) (c c' : Channel) : Prop where
  rest : c' = { c with attempting := c'.attempting, lastError := c'.lastError }
  attempting : c'.attempting = c.attempting ∨ p = .checked ∨ ∃ r, p = .settled r
  lastError : c'.lastError = c.lastError ∨ ∃ r, c.RejectsAt t p r ∧ c'.lastError = r.error?

lemma spares_refl (t : Target) (p : Phase) (c : Channel) : c.Spares t p c :=
  ⟨rfl, .inl rfl, .inl rfl⟩

lemma spares_of_rejectsAt {p : Phase} (now : Nat) (h : c.RejectsAt t p r) :
    c.Spares t p (c.proceed now t p).1 := by
  rw [proceed_of_rejectsAt now h]
  refine ⟨rfl, .inl rfl, ?_⟩
  cases he : r.error? with
  | none => exact .inl rfl
  | some f => exact .inr ⟨r, h, he.symm⟩

lemma spares_check (t : Target) (c : Channel) : c.Spares t .entered (c.check t).1 := by
  by_cases hd : t.device.isBlank = true
  · exact spares_of_rejectsAt 0 (.noDevice hd)
  rw [Bool.not_eq_true] at hd
  have hc : (c.check t).1 = c := by
    unfold check
    rw [hd, if_neg Bool.false_ne_true]
    split_ifs <;> rfl
  rw [hc]
  exact spares_refl ..

lemma spares_prepare (t : Target) (c : Channel) : c.Spares t .claimed (c.prepare t).1 := by
  cases hk : c.credentials.held with
  | none => exact spares_of_rejectsAt 0 (.noCredential hk)
  | some k =>
    cases hu : t.address c.settings k with
    | error f => exact spares_of_rejectsAt 0 (.noAddress hk hu)
    | ok u =>
      have hc : (c.prepare t).1 = c := by simp only [prepare, hk, hu]
      rw [hc]
      exact spares_refl ..

/-- A step that begins no attempt changes at most who may attempt and the last error, and the latter
only for a rejection. -/
lemma spares_proceed (now : Nat) (t : Target) {p : Phase}
    (h : ∀ u, p = .prepared u → c.shutDown = true) : c.Spares t p (c.proceed now t p).1 := by
  cases p with
  | entered => exact spares_check t c
  | checked =>
    rw [proceed, claim]
    split_ifs
    · exact spares_refl ..
    · exact ⟨rfl, .inr (.inl rfl), .inl rfl⟩
  | claimed => exact spares_prepare t c
  | prepared u => exact spares_of_rejectsAt now (.tooLate (h u rfl))
  | settled r => exact ⟨rfl, .inr (.inr ⟨r, rfl⟩), .inl rfl⟩
  | opening | finished => exact spares_refl ..

end Channel

namespace System

/-- The address that is dialled with an input, which is that of a call whose attempt begins. -/
def dial? (s : System) : Input → Option Url
  | .proceed n =>
    match s.calls[n]? with
    | some ⟨_, .prepared u, _⟩ => if s.channel.shutDown then none else some u
    | _ => none
  | _ => none

/-- The addresses that are dialled in a run. -/
def dials : System → List Input → List Url
  | _, [] => []
  | s, i :: is => (s.dial? i).toList ++ dials (s.step i) is

variable {s : System} {n : Nat} {k : Call}

lemma dial_of_prepared {u : Url} (hk : s.calls[n]? = some k) (hp : k.phase = .prepared u)
    (hs : s.channel.shutDown = false) : s.dial? (.proceed n) = some u := by
  obtain ⟨t, p, x⟩ := k
  obtain rfl : p = .prepared u := hp
  simp only [dial?, hk, hs, Bool.false_eq_true, if_false]

lemma shutDown_of_dial_eq_none (h : s.dial? (.proceed n) = none) (hk : s.calls[n]? = some k)
    (u : Url) (hp : k.phase = .prepared u) : s.channel.shutDown = true := by
  cases hs : s.channel.shutDown with
  | true => rfl
  | false => exact absurd ((dial_of_prepared hk hp hs).symm.trans h) (by simp)

lemma waitingFor_eq (hk : s.calls[n]? = some k) : s.waitingFor? n =
    match k.phase with
    | .opening _ u _ => some u
    | _ => none := by
  obtain ⟨t, p, x⟩ := k
  cases p <;> simp [waitingFor?, hk]

/-- A call whose handshake is awaited takes no step, and dials nothing more. -/
lemma dials_of_waiting {u : Url} (h : s.waitingFor? n = some u) (j : Nat) :
    s.dials (List.replicate j (.proceed n)) = [] ∧
      s.run (List.replicate j (.proceed n)) = s := by
  have hrest : s.dial? (.proceed n) = none ∧ s.step (.proceed n) = s := by
    unfold waitingFor? at h
    split at h
    · next t g v d x hk =>
      refine ⟨by simp only [dial?, hk], ?_⟩
      rw [proceed_eq hk]
      exact setPhase_self hk
    · cases h
  induction j with
  | zero => exact ⟨rfl, rfl⟩
  | succ j ih =>
    constructor
    · simp only [List.replicate_succ, dials, hrest, Option.toList_none, List.nil_append, ih.1]
    · simpa only [List.replicate_succ, run, List.foldl_cons, hrest.2] using ih.2

/-- With a step of a call that waits for no handshake, the address is dialled that it waits at
afterwards. -/
lemma dial_eq_waitingFor (h : s.waitingFor? n = none) :
    s.dial? (.proceed n) = (s.step (.proceed n)).waitingFor? n := by
  cases hk : s.calls[n]? with
  | none => simp only [dial?, waitingFor?, step, proceed, hk]
  | some k =>
    rw [waitingFor_eq (calls_proceed_self hk)]
    obtain ⟨t, p, x⟩ := k
    cases p with
    | entered =>
      simp only [dial?, hk, Channel.proceed, Channel.check]
      split_ifs <;> rfl
    | checked =>
      simp only [dial?, hk, Channel.proceed, Channel.claim]
      split_ifs <;> rfl
    | claimed =>
      cases hc : s.channel.credentials.held with
      | none => simp only [dial?, hk, Channel.proceed, Channel.prepare, hc]
      | some c =>
        cases hu : t.address s.channel.settings c <;>
          simp only [dial?, hk, Channel.proceed, Channel.prepare, hc, hu]
    | prepared u =>
      simp only [dial?, hk, Channel.proceed, Channel.start]
      split_ifs <;> rfl
    | opening g u d => simp [waitingFor?, hk] at h
    | settled r | finished r => simp only [dial?, hk, Channel.proceed, Channel.release]

/-- A call that nothing interrupts dials just the address at which it then waits. -/
lemma dials_proceed (h : s.waitingFor? n = none) (j : Nat) :
    s.dials (List.replicate j (.proceed n)) =
      ((s.run (List.replicate j (.proceed n))).waitingFor? n).toList := by
  induction j generalizing s with
  | zero => simp only [List.replicate_zero, dials, run, List.foldl_nil, h, Option.toList_none]
  | succ j ih =>
    have hstep := dial_eq_waitingFor h
    simp only [List.replicate_succ, dials, hstep]
    cases hw : (s.step (.proceed n)).waitingFor? n with
    | none => exact ih hw
    | some u =>
      obtain ⟨hd, hr⟩ := dials_of_waiting hw j
      change [u] ++ _ = (((s.step (.proceed n)).run _).waitingFor? n).toList
      rw [hd, hr, hw]
      rfl

lemma dials_connect (s : System) (device : DeviceId) (vendor : String) :
    s.dials (s.inputs (.connect device vendor)) =
      ((s.perform (.connect device vendor)).waitingFor? s.calls.length).toList := by
  have hw : (s.step (.connect device vendor)).waitingFor? s.calls.length = none := by
    simp [step, enter, waitingFor?]
  exact dials_proceed hw 5

/-- A call was answered at once, and left at most an error behind. -/
def answered (t : Target) (r : Bool) (e : Option Failure) (s : System) : System :=
  { s with
    channel := { s.channel with lastError := e.or s.channel.lastError }
    calls := s.calls ++ [⟨t, .finished (some r), none⟩] }

lemma waitingFor_answered (t : Target) (r : Bool) (e : Option Failure) (s : System) :
    (s.answered t r e).waitingFor? s.calls.length = none := by
  simp [answered, waitingFor?]

section Connect

variable {device : DeviceId} {vendor : String}

lemma perform_of_rejects {r : Channel.Rejection}
    (h : s.channel.Rejects (.ofRequest s.channel.settings device vendor) r) :
    s.perform (.connect device vendor) =
      s.answered (.ofRequest s.channel.settings device vendor) false r.error? := by
  rw [perform_connect, settleCall_enter, Channel.carry_of_rejects _ h]
  rfl

lemma perform_of_present (h : s.channel.Present (.ofRequest s.channel.settings device vendor)) :
    s.perform (.connect device vendor) =
      s.answered (.ofRequest s.channel.settings device vendor) true none := by
  rw [perform_connect, settleCall_enter, Channel.carry_of_present _ h]
  rfl

lemma dials_of_answered {t : Target} {r : Bool} {e : Option Failure}
    (h : s.perform (.connect device vendor) = s.answered t r e) :
    s.dials (s.inputs (.connect device vendor)) = [] := by
  rw [dials_connect, h, waitingFor_answered]
  rfl

lemma dials_of_accepts {u : Url}
    (h : s.channel.Accepts (.ofRequest s.channel.settings device vendor) u) :
    s.dials (s.inputs (.connect device vendor)) = [u] := by
  rw [dials_connect, perform_connect, settleCall_enter_of_accepts h]
  simp [waitingFor?]

end Connect

/-- The channel is open to a target exactly if a reader holds it that was asked for this target. -/
lemma present_iff (h : s.skeleton.Coherent) (hu : s.skeleton.Usable) {t : Target} :
    s.channel.Present t ↔ s.channel.reader.isSome ∧ s.channel.target = some t := by
  constructor
  · rintro ⟨-, hs, hc, ht⟩
    refine ⟨?_, ht⟩
    rw [show s.channel.reader = some s.channel.generation from h.connected hs hc]
    rfl
  · rintro ⟨hr, ht⟩
    obtain ⟨g, hg⟩ := Option.isSome_iff_exists.1 hr
    obtain ⟨-, -, hs, hc, -⟩ := h.reader g hg
    exact ⟨(hu.target t ht).1, hs, hc, ht⟩

/-- What comes of a call that is made while nothing else happens. -/
structure Answers (s : System) (device : DeviceId) (vendor : String) (t : Target) : Prop where
  rejected : ∀ r, s.channel.Rejects t r →
    s.perform (.connect device vendor) = s.answered t false r.error? ∧
      r.error?.map Failure.kind = r.kind? ∧ s.dials (s.inputs (.connect device vendor)) = []
  present : s.channel.reader.isSome → s.channel.target = some t →
    s.perform (.connect device vendor) = s.answered t true none ∧
      s.dials (s.inputs (.connect device vendor)) = []
  accepted : ∀ u, s.channel.Accepts t u → s.dials (s.inputs (.connect device vendor)) = [u]
  cases : (∃ r, s.channel.Rejects t r) ∨ (s.channel.reader.isSome ∧ s.channel.target = some t) ∨
    ∃ u, s.channel.Accepts t u

lemma answers (h : s.skeleton.Coherent) (hu : s.skeleton.Usable) (device : DeviceId)
    (vendor : String) : s.Answers device vendor (.ofRequest s.channel.settings device vendor) where
  rejected r hr :=
    ⟨perform_of_rejects hr, Channel.kind_of_rejects hr, dials_of_answered (perform_of_rejects hr)⟩
  present hr ht := by
    have hp := perform_of_present ((present_iff h hu).2 ⟨hr, ht⟩)
    exact ⟨hp, dials_of_answered hp⟩
  accepted u ha := dials_of_accepts ha
  cases := by
    by_cases ha : ∃ u, s.channel.Accepts (.ofRequest s.channel.settings device vendor) u
    · exact .inr (.inr ha)
    · obtain hp | hr := Channel.present_or_rejects (not_exists.1 ha)
      · exact .inr (.inl ((present_iff h hu).1 hp))
      · exact .inl hr

/-- In every run a call that opens nothing leaves everything as it was, up to the error that it is
rejected with; if other things interrupt the call, so does each of its steps. -/
theorem rejection_run (settings : ChannelSettings) (capacity : Nat) (credentials : CredentialSlot)
    (clock : Channel.Clock) (inputs : List Input) :
    let s := (new (.new settings capacity credentials) clock).run inputs
    (∀ device vendor, s.Answers device vendor (.ofRequest settings device vendor)) ∧
    ∀ n k, s.calls[n]? = some k → s.dial? (.proceed n) = none →
      s.channel.Spares k.target k.phase (s.step (.proceed n)).channel ∧
        ∃ p, s.step (.proceed n) = s.put n ((s.step (.proceed n)).channel, p) := by
  intro s
  have hset : s.channel.settings = settings :=
    skeleton_run (new (.new settings capacity credentials) clock)
      (P := fun a => a.settings = settings) (fun _ _ m ha => m.settings_eq.trans ha) inputs rfl
  constructor
  · intro device vendor
    rw [← hset]
    exact answers (coherent_run ..) (usable_run ..) device vendor
  · intro n k hk hd
    have hstep := proceed_eq hk
    refine ⟨?_, _, by rw [hstep]; rfl⟩
    rw [hstep]
    exact Channel.spares_proceed _ _ (shutDown_of_dial_eq_none hd hk)

/-- A call for another device comes while the channel is about to be opened again. -/
theorem rejection_reconnecting :
    (resting.run reconnecting).channel.Rejects ⟨⟨"r2"⟩, "generic"⟩ .inFlight ∧
      (resting.run reconnecting).perform (.connect ⟨"r2"⟩ "") =
        (resting.run reconnecting).answered ⟨⟨"r2"⟩, "generic"⟩ false none := by
  have hr : (resting.run reconnecting).channel.Rejects ⟨⟨"r2"⟩, "generic"⟩ .inFlight :=
    .checked ⟨by decide +kernel, by decide +kernel, by decide +kernel⟩
      (.inFlight (by decide +kernel))
  have h := rejection_run {} 50 (.ofToken (some "t")) ⟨0, "now"⟩ reconnecting
  exact ⟨hr, ((h.1 ⟨"r2"⟩ "").rejected .inFlight hr).1⟩

end System
end LiveTelemetry
