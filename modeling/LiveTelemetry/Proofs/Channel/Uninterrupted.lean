import LiveTelemetry.Channel.Operation
import LiveTelemetry.Proofs.Channel.Attainable

/-!
Calls that nothing interrupts. Main statements: such a call begins an attempt exactly if it passes
all checks, and otherwise leaves at most an error behind; and with its handshake it is over.
-/
namespace LiveTelemetry

/-- Whether a call in this phase takes no step by itself. -/
def Phase.isResting : Phase → Bool
  | opening .. | finished _ => true
  | entered | checked | claimed | prepared _ | settled _ => false

namespace Channel

/-- Lets a call take so many steps while nothing else happens. -/
def carry (now : Nat) (t : Target) : Nat → Channel × Phase → Channel × Phase
  | 0, x => x
  | n + 1, x => carry now t n (x.1.proceed now t x.2)

variable {now : Nat} {t : Target} {u : Url} {c : Channel}

lemma carry_of_isResting {p : Phase} (hp : p.isResting = true) (n : Nat) :
    carry now t n (c, p) = (c, p) := by
  induction n with
  | zero => rfl
  | succ n ih =>
    cases p with
    | opening | finished => exact ih
    | _ => exact absurd hp Bool.false_ne_true

lemma carry_settled (r : Option Bool) (n : Nat) :
    carry now t (n + 1) (c, .settled r) = ({ c with attempting := false }, .finished r) :=
  carry_of_isResting rfl n

/-- A call finds that it has something to do. -/
structure Passes (t : Target) (c : Channel) : Prop where
  device : t.device.isBlank = false
  alive : c.shutDown = false
  other : ¬(c.state = .connected ∧ c.target = some t)

lemma check_of_passes (h : c.Passes t) : c.check t = (c, .checked) := by
  simp only [check, h.device, h.alive, h.other, Bool.false_eq_true, if_false]

lemma claim_of_free (h : c.attempting = false) :
    c.claim = ({ c with attempting := true }, .claimed) := by
  simp only [claim, h, Bool.false_eq_true, if_false]

/-- What a call checks before it begins an attempt. -/
structure Accepts (t : Target) (u : Url) (c : Channel) : Prop where
  device : t.device.isBlank = false
  alive : c.shutDown = false
  other : ¬(c.state = .connected ∧ c.target = some t)
  free : c.attempting = false
  address : ∃ k, c.credentials.held = some k ∧ t.address c.settings k = .ok u

/-- A call that passes all checks begins. -/
lemma carry_of_accepts (h : c.Accepts t u) :
    carry now t 5 (c, .entered) = start now t u { c with attempting := true } := by
  obtain ⟨k, hk, hu⟩ := h.address
  have hcheck := check_of_passes ⟨h.device, h.alive, h.other⟩
  have hclaim := claim_of_free h.free
  have hprepare : prepare t { c with attempting := true } =
      ({ c with attempting := true }, .prepared u) := by
    simp only [prepare, hk, hu]
  have hstart : (start now t u { c with attempting := true }).2.isResting = true := by
    simp only [start, h.alive, Bool.false_eq_true, if_false]
    rfl
  calc carry now t 5 (c, .entered)
      = carry now t 1 (start now t u { c with attempting := true }) := by
        simp only [carry, proceed, hcheck, hclaim, hprepare]
    _ = start now t u { c with attempting := true } := carry_of_isResting hstart 1

/-- Why a call opens nothing. -/
inductive Rejection where
  | noDevice
  | shutDown
  | inFlight
  | noCredential
  | noAddress (f : Failure)

/-- The error that a rejected call leaves behind, if it leaves one. -/
def Rejection.error? : Rejection → Option Failure
  | noDevice => some DeviceId.required
  | shutDown | inFlight => none
  | noCredential => some .noCredential
  | noAddress f => some f

/-- In this phase the next step of a call rejects it. -/
inductive RejectsAt (t : Target) (c : Channel) : Phase → Rejection → Prop
  | noDevice (hd : t.device.isBlank = true) : RejectsAt t c .entered .noDevice
  | shutDown (hd : t.device.isBlank = false) (hs : c.shutDown = true) :
    RejectsAt t c .entered .shutDown
  | inFlight (ha : c.attempting = true) : RejectsAt t c .checked .inFlight
  | noCredential (hk : c.credentials.held = none) : RejectsAt t c .claimed .noCredential
  | noAddress {k : Credential} {f : Failure} (hk : c.credentials.held = some k)
    (hu : t.address c.settings k = .error f) : RejectsAt t c .claimed (.noAddress f)
  /-- The channel was shut down since the call has looked at it. -/
  | tooLate {v : Url} (hs : c.shutDown = true) : RejectsAt t c (.prepared v) .shutDown

/-- A call that nothing interrupts is rejected, after it has passed the checks before. -/
inductive Rejects (t : Target) (c : Channel) (r : Rejection) : Prop
  | entered (h : c.RejectsAt t .entered r)
  | checked (hp : c.Passes t) (h : c.RejectsAt t .checked r)
  | claimed (hp : c.Passes t) (ha : c.attempting = false) (h : c.RejectsAt t .claimed r)

/-- The channel is open to a target already. -/
structure Present (t : Target) (c : Channel) : Prop where
  device : t.device.isBlank = false
  alive : c.shutDown = false
  state : c.state = .connected
  target : c.target = some t

/-- The step at which a call is rejected leaves at most an error behind. -/
lemma proceed_of_rejectsAt {p : Phase} {r : Rejection} (now : Nat) (h : c.RejectsAt t p r) :
    c.proceed now t p = ({ c with lastError := r.error?.or c.lastError },
      if p.holds then .settled (some false) else .finished (some false)) := by
  cases h with
  | noDevice hd =>
    rw [proceed, check, if_pos hd]
    rfl
  | shutDown hd hs =>
    rw [proceed, check, hd, if_neg Bool.false_ne_true, if_pos hs]
    rfl
  | inFlight ha =>
    rw [proceed, claim, if_pos ha]
    rfl
  | noCredential hk =>
    simp only [proceed, prepare, hk]
    rfl
  | noAddress hk hu =>
    simp only [proceed, prepare, hk, hu]
    rfl
  | tooLate hs =>
    rw [proceed, start, if_pos hs]
    rfl

lemma check_of_present (h : c.Present t) : c.check t = (c, .finished (some true)) := by
  simp only [check, h.device, h.alive, h.state, h.target, Bool.false_eq_true, and_self, if_true,
    if_false]

lemma carry_of_present (now : Nat) (h : c.Present t) :
    carry now t 5 (c, .entered) = (c, .finished (some true)) := by
  calc carry now t 5 (c, .entered) = carry now t 4 (c.check t) := rfl
    _ = (c, .finished (some true)) := by rw [check_of_present h, carry_of_isResting rfl]

/-- A call that is rejected is over, and leaves at most an error behind. -/
lemma carry_of_rejects (now : Nat) {r : Rejection} (h : c.Rejects t r) :
    carry now t 5 (c, .entered) =
      ({ c with lastError := r.error?.or c.lastError }, .finished (some false)) := by
  cases h with
  | entered h =>
    calc carry now t 5 (c, .entered) = carry now t 4 (c.proceed now t .entered) := rfl
      _ = _ := by rw [proceed_of_rejectsAt now h]; exact carry_of_isResting rfl 4
  | checked hp h =>
    calc carry now t 5 (c, .entered) = carry now t 4 (c.check t) := rfl
      _ = carry now t 3 (c.proceed now t .checked) := by rw [check_of_passes hp]; rfl
      _ = _ := by rw [proceed_of_rejectsAt now h]; exact carry_of_isResting rfl 3
  | claimed hp ha h =>
    have h' : RejectsAt t { c with attempting := true } .claimed r := by
      cases h with
      | noCredential hk => exact .noCredential hk
      | noAddress hk hu => exact .noAddress hk hu
    -- The right that was claimed is given back.
    calc carry now t 5 (c, .entered) = carry now t 4 (c.check t) := rfl
      _ = carry now t 3 c.claim := by rw [check_of_passes hp]; rfl
      _ = carry now t 2 (proceed now t .claimed { c with attempting := true }) := by
        rw [claim_of_free ha]
        rfl
      _ = carry now t 2 ({ c with attempting := true, lastError := r.error?.or c.lastError },
            .settled (some false)) := by
        rw [proceed_of_rejectsAt now h']
        rfl
      _ = ({ c with attempting := false, lastError := r.error?.or c.lastError },
            .finished (some false)) := carry_settled _ 1
      _ = _ := by rw [← ha]

/-- A call that fails a check is rejected, or finds the channel open. -/
lemma present_or_rejects (h : ∀ u, ¬c.Accepts t u) : c.Present t ∨ ∃ r, c.Rejects t r := by
  by_cases hd : t.device.isBlank = true
  · exact .inr ⟨_, .entered (.noDevice hd)⟩
  rw [Bool.not_eq_true] at hd
  by_cases hs : c.shutDown = true
  · exact .inr ⟨_, .entered (.shutDown hd hs)⟩
  rw [Bool.not_eq_true] at hs
  by_cases hc : c.state = .connected ∧ c.target = some t
  · exact .inl ⟨hd, hs, hc.1, hc.2⟩
  have hp : c.Passes t := ⟨hd, hs, hc⟩
  by_cases ha : c.attempting = true
  · exact .inr ⟨_, .checked hp (.inFlight ha)⟩
  rw [Bool.not_eq_true] at ha
  cases hk : c.credentials.held with
  | none => exact .inr ⟨_, .claimed hp ha (.noCredential hk)⟩
  | some k =>
    cases hu : t.address c.settings k with
    | error f => exact .inr ⟨_, .claimed hp ha (.noAddress hk hu)⟩
    | ok u => exact absurd ⟨hd, hs, hc, ha, k, hk, hu⟩ (h u)

/-- A call that fails a check is over, and leaves at most an error behind. -/
lemma carry_of_not_accepts (now : Nat) (h : ∀ u, ¬c.Accepts t u) : ∃ e r,
    carry now t 5 (c, .entered) = ({ c with lastError := e }, .finished r) := by
  obtain hp | ⟨r, hr⟩ := present_or_rejects h
  · exact ⟨c.lastError, some true, carry_of_present now hp⟩
  · exact ⟨_, _, carry_of_rejects now hr⟩

/-- A channel for which an attempt was begun. -/
def begin (t : Target) (c : Channel) : Channel :=
  { c.renew with
    attempting := true
    target := some t
    reconnectAllowed := true
    state := .connecting
    counters := c.counters.attempt }

lemma start_of_accepts (h : c.Accepts t u) : start now t u { c with attempting := true } =
    (c.begin t, .opening (c.generation + 1) u (now + c.settings.timeoutMilliseconds)) := by
  have hs : ¬({ c with attempting := true } : Channel).shutDown = true := by simp [h.alive]
  rw [start, if_neg hs]
  rfl

/-- The handshake of generation `g` is over: no timer is set, and a reader comes only of the
generation in force. -/
structure Concludes (g : Nat) (c c' : Channel) : Prop where
  timer : c'.timer = c.timer
  reconnects : c'.counters.reconnects = c.counters.reconnects
  reader : c'.reader = c.reader ∨ c'.reader = some g ∧ c.isCurrent g = true

lemma concludes_settle (g : Nat) (o : Outcome) (c : Channel) :
    c.Concludes g (c.settle g o).1 ∧ ∃ r, (c.settle g o).2 = .settled r := by
  cases o with
  | opened =>
    simp only [settle]
    split_ifs with hc
    · exact ⟨⟨rfl, rfl, .inr ⟨rfl, hc⟩⟩, _, rfl⟩
    · exact ⟨⟨rfl, rfl, .inl rfl⟩, _, rfl⟩
  | failed f => exact ⟨⟨rfl, rfl, .inl rfl⟩, _, rfl⟩

lemma concludes_abandon (g : Nat) (c : Channel) :
    c.Concludes g (c.abandon g).1 ∧ ∃ r, (c.abandon g).2 = .settled r := by
  simp only [abandon]
  split_ifs <;> exact ⟨⟨rfl, rfl, .inl rfl⟩, _, rfl⟩

end Channel

namespace System

variable {s : System}

/-- The channel changes, and the phase of a call with it. -/
def put (n : Nat) (x : Channel × Phase) (s : System) : System :=
  ({ s with channel := x.1 }).setPhase n x.2

lemma put_put (n : Nat) (x y : Channel × Phase) (s : System) :
    (s.put n x).put n y = s.put n y := by
  simp only [put, setPhase, List.modify_modify_eq]
  rfl

/-- A call runs, and nothing else. -/
lemma run_proceed {n : Nat} {k : Call} (hk : s.calls[n]? = some k) (j : Nat) :
    s.run (List.replicate j (.proceed n)) =
      s.put n (Channel.carry s.clock.now k.target j (s.channel, k.phase)) := by
  induction j generalizing s k with
  | zero => exact (setPhase_self hk).symm
  | succ j ih =>
    have hstep : s.step (.proceed n) =
        s.put n (s.channel.proceed s.clock.now k.target k.phase) := proceed_eq hk
    have hk' := calls_proceed_self hk
    rw [hstep] at hk'
    calc s.run (List.replicate (j + 1) (.proceed n))
        = (s.put n (s.channel.proceed s.clock.now k.target k.phase)).run
            (List.replicate j (.proceed n)) := by rw [← hstep]; rfl
      _ = (s.put n (s.channel.proceed s.clock.now k.target k.phase)).put n
            (Channel.carry s.clock.now k.target (j + 1) (s.channel, k.phase)) := ih hk'
      _ = s.put n (Channel.carry s.clock.now k.target (j + 1) (s.channel, k.phase)) :=
          put_put ..

lemma run_proceed_none {n : Nat} (hn : s.calls[n]? = none) (j : Nat) :
    s.run (List.replicate j (.proceed n)) = s := by
  induction j with
  | zero => rfl
  | succ j ih =>
    have hstep : s.step (.proceed n) = s := by simp only [step, proceed, hn]
    simpa only [List.replicate_succ, run, List.foldl_cons, hstep] using ih

/-- A call is made that nothing interrupts. -/
lemma settleCall_enter (t : Target) (x : Option Timer) (s : System) :
    (s.enter t x).settleCall s.calls.length =
      { s with
        channel := (Channel.carry s.clock.now t 5 (s.channel, .entered)).1
        calls := s.calls ++
          [⟨t, (Channel.carry s.clock.now t 5 (s.channel, .entered)).2, x⟩] } := by
  have hk : (s.enter t x).calls[s.calls.length]? = some ⟨t, .entered, x⟩ := by simp [enter]
  refine (run_proceed hk 5).trans ?_
  have hlt : s.calls.length < (s.calls ++ [(⟨t, .entered, x⟩ : Call)]).length := by simp
  simp [put, setPhase, enter, List.modify_eq_take_cons_drop hlt]

lemma settleCall_enter_of_accepts {t : Target} {u : Url} (h : s.channel.Accepts t u)
    (x : Option Timer) :
    (s.enter t x).settleCall s.calls.length =
      { s with
        channel := s.channel.begin t
        calls := s.calls ++ [⟨t, .opening (s.channel.generation + 1) u
          (s.clock.now + s.channel.settings.timeoutMilliseconds), x⟩] } := by
  rw [settleCall_enter, Channel.carry_of_accepts h, Channel.start_of_accepts h]

lemma settleCall_enter_of_not_accepts {t : Target} (h : ∀ u, ¬s.channel.Accepts t u)
    (x : Option Timer) : ∃ e r,
    (s.enter t x).settleCall s.calls.length =
      { s with
        channel := { s.channel with lastError := e }
        calls := s.calls ++ [⟨t, .finished r, x⟩] } := by
  obtain ⟨e, r, hc⟩ := Channel.carry_of_not_accepts s.clock.now h
  exact ⟨e, r, by rw [settleCall_enter, hc]⟩

/-- A call whose handshake is over runs to its end. -/
lemma settleCall_of_settled {n : Nat} {k : Call} {r : Option Bool} (hk : s.calls[n]? = some k)
    (hp : k.phase = .settled r) :
    s.settleCall n = s.put n ({ s.channel with attempting := false }, .finished r) := by
  refine (run_proceed hk 5).trans ?_
  rw [hp, Channel.carry_settled]

lemma settleCall_of_isResting {n : Nat}
    (h : ∀ k ∈ s.calls, k.phase.isResting = true) : s.settleCall n = s := by
  cases hk : s.calls[n]? with
  | none => exact run_proceed_none hk 5
  | some k =>
    refine (run_proceed hk 5).trans ?_
    rw [Channel.carry_of_isResting (h k (List.mem_of_getElem? hk))]
    exact setPhase_self hk

/-- A call has ended with its handshake. -/
def EndsCall (n : Nat) (s y : System) : Prop :=
  ∃ k g c r rs, s.calls[n]? = some k ∧ k.phase.generation? = some g ∧ s.channel.Concludes g c ∧
    y = put n ({ c with attempting := false }, .finished r) { s with readers := rs }

lemma endsCall_of_settled {n : Nat} {k : Call} {g : Nat} {c : Channel} {p : Phase}
    {r : Option Bool} (hk : s.calls[n]? = some k) (hg : k.phase.generation? = some g)
    (hc : s.channel.Concludes g c) (hp : p = .settled r) (rs : List Nat) :
    EndsCall n s ((setPhase n p { s with channel := c, readers := rs }).settleCall n) := by
  refine ⟨k, g, c, r, rs, hk, hg, hc, ?_⟩
  have hset : (setPhase n p { s with channel := c, readers := rs }).calls[n]? =
      some { k with phase := p } := getElem?_setPhase_self p hk
  rw [settleCall_of_settled hset hp]
  exact put_put n (c, p) _ { s with readers := rs }

lemma endsCall_conclude {n : Nat} {t : Target} {g : Nat} {u : Url} {d : Nat} {x : Option Timer}
    (hk : s.calls[n]? = some ⟨t, .opening g u d, x⟩) (o : Outcome) :
    EndsCall n s ((s.conclude n o).settleCall n) := by
  simp only [conclude, hk]
  obtain ⟨hc, r, hr⟩ := s.channel.concludes_settle g
    (Channel.timely s.clock.now d o s.channel.settings)
  exact endsCall_of_settled hk rfl hc hr _

/-- Whatever the end of a handshake is, the call ends with it; and nothing happens to a call that
waits for none. -/
lemma perform_ends (h : ∀ k ∈ s.calls, k.phase.isResting = true) {n : Nat} {op : Operation}
    (hop : (∃ o, op = .outcome n o) ∨ op = .expire n ∨ op = .abandon n) :
    s.perform op = s ∨ EndsCall n s (s.perform op) := by
  have hstay : s.settleCall n = s := settleCall_of_isResting h
  have hconclude : ∀ o, s.conclude n o = s ∨ EndsCall n s ((s.conclude n o).settleCall n) := by
    intro o
    unfold conclude
    split
    · next t g u d x hk => exact .inr (by simpa only [conclude, hk] using endsCall_conclude hk o)
    · exact .inl rfl
  obtain ⟨o, rfl⟩ | rfl | rfl := hop
  · rw [perform_outcome]
    obtain ho | ho := hconclude o
    · exact .inl (by rw [ho, hstay])
    · exact .inr ho
  · rw [perform_expire]
    unfold expire
    split
    · split_ifs
      · obtain ho | ho := hconclude (.failed (Channel.expired s.channel.settings))
        · exact .inl (by rw [ho, hstay])
        · exact .inr ho
      · exact .inl hstay
    · exact .inl hstay
  · rw [perform_abandon]
    unfold abandon
    split
    · next t g u d x hk =>
      right
      obtain ⟨hc, r, hr⟩ := s.channel.concludes_abandon g
      exact endsCall_of_settled hk rfl hc hr s.readers
    · next t x hk => exact absurd (h _ (List.mem_of_getElem? hk)) Bool.false_ne_true
    · exact .inl hstay

end System
end LiveTelemetry
