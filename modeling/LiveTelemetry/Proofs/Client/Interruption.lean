import LiveTelemetry.Proofs.Client.Pairing

/-!
Signals at any moment of a run. Main statement: a signal leaves no collection behind exactly if it
comes once the run waits for signals, or is on its way out; and it cuts the run off exactly if it
comes before, or while a channel that has not opened is given up.
-/
namespace LiveTelemetry

namespace Stage

/-- Whether a collection that was asked for would be left behind. -/
def isExposed : Stage → Bool
  | starting _ | opening | streaming false => true
  | streaming true | stopping .. | ended _ | killed => false

def isOver : Stage → Bool
  | ended _ | killed => true
  | starting _ | opening | streaming _ | stopping .. => false

end Stage

namespace Client

variable {c d : Client} {h : Happening} {hs : List Happening}

/-- The service was asked to start the collection, and has accepted or not yet answered. -/
def MayCollect (c : Client) : Prop := c.collecting = true ∨ ∃ r, c.stage = .starting r

/-! ### Signals that nothing handles -/

lemma step_signal_of_not_isGuarded (hg : c.stage.isGuarded = false) :
    c.step .signal = { c with stage := .killed } := by
  cases hs : c.stage with
  | streaming guarded =>
    cases guarded with
    | true => rw [hs] at hg; cases hg
    | false => simp only [step, hs]
  | stopping r result =>
    cases result with
    | error f => simp only [step, hs]
    | ok => rw [hs] at hg; cases hg
  | ended result => rw [hs] at hg; cases hg
  | _ => simp only [step, hs]

lemma step_of_killed (hk : c.stage = .killed) (h : Happening) : c.step h = c := by
  cases h <;> simp only [step, hk]
  rw [← hk]

lemma run_of_killed (hk : c.stage = .killed) (hs : List Happening) : c.run hs = c := by
  induction hs with
  | nil => rfl
  | cons h hs ih =>
    have hstep : c.run (h :: hs) = (c.step h).run hs := rfl
    rw [hstep, step_of_killed hk, ih]

/-- No signal has found a run unguarded that was not killed. -/
lemma isPatient_of_ne_killed (hk : (c.run hs).stage ≠ .killed) : c.IsPatient hs := by
  rintro before after rfl
  by_contra hg
  rw [Bool.not_eq_true] at hg
  refine hk ?_
  have hrun : c.run (before ++ .signal :: after) = ((c.run before).step .signal).run after :=
    run_append c before (.signal :: after)
  rw [hrun, step_signal_of_not_isGuarded hg, run_of_killed rfl]

/-! ### Signals that are handled -/

variable {started : Option Request} {reply : Option Exchange} {told : Prop}

lemma isGuarded_of_result {g : Stage} (h : g.result? = some (.ok ())) : g.isGuarded = true := by
  cases g with
  | stopping r result => rw [Option.some.inj h]; rfl
  | ended result => rfl
  | _ => cases h

/-- A signal that finds the run waiting for one sets it on its way out. -/
lemma Course.result_signal (hc : Course started reply told c) (hs : c.stage = .streaming true) :
    (c.step .signal).stage.result? = some (.ok ()) := by
  let d : Client := { (c.say .info "Shutdown signal received").act .hangUp with
    system := c.system.step .disconnect }
  have hfit : Fit started reply d := hc.toFit.congr ⟨rfl, rfl, rfl⟩ rfl
  obtain ⟨stage, lines, hstage, hleave⟩ := leave_eq hfit.stoppable (.ok ())
  have hstep : c.step .signal = d.leave (.ok ()) := by
    simp only [Client.step, hs]
    rfl
  rw [hstep, hleave]
  exact hstage

/-- What handles signals goes on handling them. -/
lemma Course.isGuarded_step (hc : Course started reply told c) (hg : c.stage.isGuarded = true)
    (h : Happening) : (c.step h).stage.isGuarded = true := by
  cases hs : c.stage with
  | streaming guarded =>
    rw [hs] at hg
    cases guarded with
    | false => cases hg
    | true =>
      by_cases hh : h = .signal
      · rw [hh]
        exact isGuarded_of_result (hc.result_signal hs)
      · obtain ⟨guarded, system, lines, hkeep, hstep, -⟩ := step_of_streaming hs hh
        rw [hstep, hkeep rfl]
        rfl
  | stopping r result | ended result =>
    have hr : c.stage.result? = some result := by rw [hs]; rfl
    obtain ⟨stage, controller, lines, -, hkeep, hstep⟩ := step_of_result hr h fun _ => hg
    rw [hstep]
    exact hkeep hg
  | _ => rw [hs] at hg; cases hg

lemma Course.isGuarded_run (hc : Course started reply told c) (hg : c.stage.isGuarded = true)
    (hs : List Happening) : (c.run hs).stage.isGuarded = true := by
  induction hs generalizing c reply told with
  | nil => exact hg
  | cons h hs ih => exact ih (hc.step h fun _ => hg) (hc.isGuarded_step hg h)

/-! ### Runs on their way out -/

/-- Whether a run does nothing more but come to its end. -/
def IsLeaving (c : Client) : Prop := c.stage.result?.isSome = true ∨ c.stage = .killed

/-- A run on its way out does nothing more. -/
lemma IsLeaving.step (hc : c.IsLeaving) (h : Happening) :
    (c.step h).IsLeaving ∧ (c.step h).deeds = c.deeds := by
  rcases hc with hr | hk
  · by_cases hg : h = .signal → c.stage.isGuarded = true
    · obtain ⟨result, hr⟩ := Option.isSome_iff_exists.1 hr
      obtain ⟨stage, controller, lines, hstage, -, hstep⟩ := step_of_result hr h hg
      rw [hstep]
      exact ⟨.inl (by rw [hstage]; rfl), rfl⟩
    · rw [Classical.not_imp, Bool.not_eq_true] at hg
      obtain ⟨rfl, hg⟩ := hg
      rw [step_signal_of_not_isGuarded hg]
      exact ⟨.inr rfl, rfl⟩
  · rw [step_of_killed hk]
    exact ⟨.inr hk, rfl⟩

lemma IsLeaving.sent_run (hc : c.IsLeaving) (hs : List Happening) : (c.run hs).sent = c.sent := by
  induction hs generalizing c with
  | nil => rfl
  | cons h hs ih =>
    obtain ⟨hout, hdeeds⟩ := hc.step h
    exact (ih hout).trans (congrArg (List.filterMap Deed.request?) hdeeds)

lemma stops_eq_singleton {r : Request} (hc : c.collecting = true) (hr : c.ask .stop = .ok r) :
    c.stops = [r] := by
  rw [stops, if_pos hc, hr]
  rfl

/-- A run on its way out has sent what stops its collection. -/
lemma Course.mem_sent (hc : Course started reply told c) (hr : c.stage.result?.isSome = true)
    {stop : Request} (hstops : c.stops = [stop]) : stop ∈ c.sent := by
  obtain ⟨r, hs, -⟩ | ⟨-, hdeeds⟩ := hc.deeds_eq
  · rw [hs] at hr
    cases hr
  · obtain ⟨result, hr⟩ := Option.isSome_iff_exists.1 hr
    rw [sent, hdeeds, hstops, hr]
    cases result <;> simp [closing, Deed.request?]

/-- Whoever may collect has sent a start. -/
lemma Course.isSome_of_mayCollect (hc : Course started reply told c) (hm : c.MayCollect) :
    started.isSome = true := by
  obtain hcollecting | ⟨r, hs⟩ := hm
  · rw [hc.collecting, accepted, Bool.and_eq_true] at hcollecting
    exact hcollecting.1
  · cases hc.place with
    | starting stage start => rw [start]; rfl
    | opening stage | streaming stage => rw [stage] at hs; cases hs
    | failed out | told out => rw [hs] at out; cases out

/-- While a run is exposed it has sent nothing but its start. -/
lemma Course.sent_of_isExposed (hc : Course started reply told c)
    (he : c.stage.isExposed = true) : c.sent = started.toList := by
  obtain ⟨r, -, hr, -, hdeeds⟩ | ⟨-, hdeeds⟩ := hc.deeds_eq
  · rw [sent, hdeeds, hr]
    rfl
  · have hresult : c.stage.result? = none := by
      cases hs : c.stage with
      | stopping | ended => rw [hs] at he; cases he
      | _ => rfl
    rw [sent, hdeeds, hresult]
    cases started <;> rfl

lemma eq_streaming {g : Stage} (he : g.isExposed = false) (hr : g.result? = none)
    (hk : g ≠ .killed) : g = .streaming true := by
  cases g with
  | streaming guarded =>
    cases guarded with
    | true => rfl
    | false => cases he
  | stopping | ended => cases hr
  | killed => exact absurd rfl hk
  | _ => cases he

lemma isGuarded_of_isExposed {g : Stage} (h : g.isExposed = true) : g.isGuarded = false := by
  cases g with
  | streaming guarded =>
    cases guarded with
    | true => cases h
    | false => rfl
  | stopping | ended => cases h
  | _ => rfl

/-- The moment decides what a signal leaves behind. -/
lemma Launched.stop_sent_iff {o : Options} {s : Settings} {f : Client} (h : Launched o s f c)
    (hm : (c.run hs).MayCollect) (hk : (c.run hs).stage ≠ .killed) :
    (∀ later, ((c.run hs).run (.signal :: later)).stage.isOver = true →
      ∃ k ∈ s.auth.credentialSlot.held, ∃ r ∈ ((c.run hs).run (.signal :: later)).sent,
        Request.Carries c.controller.base .stop c.device k r) ↔
      (c.run hs).stage.isExposed = false := by
  have hrun := h.course.run (isPatient_of_ne_killed hk)
  have hask : (c.run hs).ask .stop = f.ask .stop := (h.alike.trans (alike_run c hs)).ask_eq .stop
  have hsome := hrun.isSome_of_mayCollect hm
  obtain ⟨hnone, -⟩ | ⟨-, k, hheld, -, start, stop, hstart, hstop, hcarries, hcarries'⟩ :=
    h.start?_cases
  · rw [hnone] at hsome
    cases hsome
  rw [hstart] at hrun
  generalize c.run hs = d at *
  cases he : d.stage.isExposed with
  | true =>
    refine iff_of_false (fun hall => ?_) nofun
    have hkilled : d.run [.signal] = { d with stage := .killed } :=
      step_signal_of_not_isGuarded (isGuarded_of_isExposed he)
    obtain ⟨k', -, r, hr, hstop'⟩ := hall [] (by rw [hkilled]; rfl)
    rw [hkilled] at hr
    have hsent : r ∈ d.sent := hr
    rw [hrun.sent_of_isExposed he] at hsent
    obtain rfl : r = start := by simpa using hsent
    exact absurd (hcarries.action.symm.trans hstop'.action) (by decide)
  | false =>
    refine iff_of_true (fun later _ => ⟨k, hheld, stop, ?_, hcarries'⟩) rfl
    have hcollecting : d.collecting = true := hm.resolve_right fun ⟨r, hs⟩ => by
      rw [hs] at he
      cases he
    rw [hstop] at hask
    by_cases hout : d.stage.result?.isSome = true
    · rw [IsLeaving.sent_run (.inl hout)]
      exact hrun.mem_sent hout (stops_eq_singleton hcollecting hask)
    · have hstreaming : d.stage = .streaming true :=
        eq_streaming he (Option.not_isSome_iff_eq_none.1 hout) hk
      have hnext := hrun.step .signal fun _ => by rw [hstreaming]; rfl
      have hresult : (d.step .signal).stage.result?.isSome = true := by
        rw [hrun.result_signal hstreaming]
        rfl
      have hreply : (reply? hs).or Happening.signal.answer? = reply? hs := Option.or_none
      have hcollecting' : (d.step .signal).collecting = true := by
        rw [hnext.collecting, hreply, ← hrun.collecting, hcollecting]
      have hsent : (d.run (.signal :: later)).sent = (d.step .signal).sent :=
        IsLeaving.sent_run (.inl hresult) later
      rw [hsent]
      exact hnext.mem_sent hresult
        (stops_eq_singleton hcollecting' (((alike_step d .signal).ask_eq .stop).trans hask))

/-- A signal cuts a run off exactly if nothing handles it. -/
lemma Course.never_killed_iff (hc : Course started reply told c) :
    (∀ later, (c.run (.signal :: later)).stage ≠ .killed) ↔ c.stage.isGuarded = true := by
  constructor
  · intro hall
    by_contra hg
    rw [Bool.not_eq_true] at hg
    exact hall [] (congrArg Client.stage (step_signal_of_not_isGuarded hg))
  · intro hg later hk
    have hguarded := hc.isGuarded_run hg (.signal :: later)
    rw [hk] at hguarded
    cases hguarded

end Client

namespace Invocation

open Client

/-- A signal comes to a run whose collection may have been accepted. Before every end that the run
can come to from then on the collection is asked to stop, exactly if the run waits for signals at
that moment or is on its way out; and the signal never cuts the run off, exactly if the run waits
for signals, was told to stop by another one, or is over. -/
theorem signal_stops_iff (i : Invocation) (o : Options) (clock : Channel.Clock) (s : Settings)
    (c : Client) (hl : i.launch o clock = .ok (s, c)) (hs : List Happening) :
    let d := c.run hs
    d.MayCollect → d.stage ≠ .killed →
      ((∀ later, (d.run (.signal :: later)).stage.isOver = true →
        ∃ k ∈ s.auth.credentialSlot.held, ∃ r ∈ (d.run (.signal :: later)).sent,
          Request.Carries c.controller.base .stop ⟨Text.trim o.device⟩ k r) ↔
        d.stage.isExposed = false) ∧
      ((∀ later, (d.run (.signal :: later)).stage ≠ .killed) ↔ d.stage.isGuarded = true) := by
  intro d hm hk
  obtain ⟨r, hl', -⟩ | ⟨s', f, c', hl', -, -, h⟩ := i.launch_cases o clock
  · cases hl.symm.trans hl'
  · cases hl.symm.trans hl'
    have hdevice : c.device = ⟨Text.trim o.device⟩ := h.alike.device.trans h.device
    rw [← hdevice]
    exact ⟨h.stop_sent_iff hm hk,
      (h.course.run (isPatient_of_ne_killed hk)).never_killed_iff⟩

/-- A signal to a run that streams and waits for signals. -/
theorem signal_stops_streaming : ∃ o s c,
    Options.parse (withToken "k").environment (withToken "k").words = .ok o ∧
    (withToken "k").launch o ⟨0, "now"⟩ = .ok (s, c) ∧
    let d := c.run [.answered (.answered 204 []), .handshake .opened, .guard]
    d.MayCollect ∧ d.stage ≠ .killed ∧
    (∀ later, (d.run (.signal :: later)).stage.isOver = true →
      ∃ k ∈ s.auth.credentialSlot.held, ∃ r ∈ (d.run (.signal :: later)).sent,
        Request.Carries c.controller.base .stop ⟨"r1"⟩ k r) ∧
    ∀ later, (d.run (.signal :: later)).stage ≠ .killed := by
  let o : Options := ⟨" r1 ", "", "development", false, 30⟩
  let hs : List Happening := [.answered (.answered 204 []), .handshake .opened, .guard]
  let f : Settings × Client → Bool × Bool × Bool := fun (_, c) =>
    ((c.run hs).collecting, (c.run hs).stage.isExposed, (c.run hs).stage.isGuarded)
  obtain ⟨s, c, hl, hf⟩ : ∃ s c, (withToken "k").launch o ⟨0, "now"⟩ = .ok (s, c) ∧
      f (s, c) = (true, false, true) := exists_of_launch (by decide +kernel)
  simp only [f, Prod.mk.injEq] at hf
  obtain ⟨hcollecting, hexposed, hguarded⟩ := hf
  have hk : (c.run hs).stage ≠ .killed := fun hk => by
    rw [hk] at hguarded
    cases hguarded
  obtain ⟨hstops, hnever⟩ := signal_stops_iff (withToken "k") o ⟨0, "now"⟩ s c hl hs
    (.inl hcollecting) hk
  have htrim : Text.trim o.device = "r1" := by decide +kernel
  rw [htrim] at hstops
  exact ⟨o, s, c, rfl, hl, .inl hcollecting, hk, hstops.2 hexposed, hnever.2 hguarded⟩

/-- A signal that comes while the channel is opened, or before the run first waits for signals,
leaves the collection behind. -/
theorem signal_leaves_collection : ∃ o s c,
    Options.parse (withToken "k").environment (withToken "k").words = .ok o ∧
    (withToken "k").launch o ⟨0, "now"⟩ = .ok (s, c) ∧
    ∀ hs ∈ [[], [.handshake .opened]],
      let d := c.run (.answered (.answered 204 []) :: hs)
      d.collecting = true ∧ (d.step .signal).stage.isOver = true ∧
      (d.step .signal).sent.map Request.action = [.start] := by
  let o : Options := ⟨" r1 ", "", "development", false, 30⟩
  let g : Client → Bool × Bool × List Action := fun d =>
    (d.collecting, (d.step .signal).stage.isOver, (d.step .signal).sent.map Request.action)
  let f : Settings × Client → (Bool × Bool × List Action) × (Bool × Bool × List Action) :=
    fun (_, c) => (g (c.run [.answered (.answered 204 [])]),
      g (c.run [.answered (.answered 204 []), .handshake .opened]))
  obtain ⟨s, c, hl, hf⟩ : ∃ s c, (withToken "k").launch o ⟨0, "now"⟩ = .ok (s, c) ∧
      f (s, c) = ((true, true, [.start]), (true, true, [.start])) :=
    exists_of_launch (by decide +kernel)
  simp only [f, g, Prod.mk.injEq] at hf
  refine ⟨o, s, c, rfl, hl, ?_⟩
  simpa using hf

end Invocation
end LiveTelemetry
