import LiveTelemetry.Client.Run
import LiveTelemetry.Proofs.Channel.FirstCall

/-!
The course of a run of the client: what it has done at each stage, by the answer to its start and by
whether a signal has told it to stop. Main statement: a run that no signal finds unguarded keeps to
its course.
-/
namespace LiveTelemetry

/-- An answer by which the service accepts what it was asked for. -/
def Exchange.accepts : Exchange → Bool
  | answered status _ => Http.isSuccess status
  | unreachable | expired => false

lemma Exchange.settle_eq_ok_iff (x : Exchange) (r : Request) :
    x.settle r = .ok () ↔ x.accepts = true := by
  cases x with
  | answered status body =>
    simp only [settle, accepts]
    split_ifs with h <;> simp [h]
  | unreachable | expired => simp [settle, accepts]

namespace Happening

def answer? : Happening → Option Exchange
  | answered x => some x
  | _ => none

end Happening

namespace Stage

/-- The result of a run that is on its way out. -/
def result? : Stage → Option (Except Failure Unit)
  | stopping _ result | ended result => some result
  | _ => none

/-- Whether a signal is handled, or finds the run over. -/
def isGuarded : Stage → Bool
  | streaming true | stopping _ (.ok ()) | ended _ => true
  | _ => false

end Stage

namespace Client

variable {c d : Client} {h : Happening} {hs : List Happening}

/-! ### What the lines of the log leave alone -/

lemma tellState_eq (before : ChannelState) (c : Client) :
    ∃ lines, c.tellState before = { c with lines } := by
  unfold tellState
  dsimp only
  split_ifs
  · exact ⟨_, rfl⟩
  · split <;> exact ⟨_, rfl⟩

lemma finish_eq (result : Except Failure Unit) (c : Client) :
    ∃ lines, c.finish result = { c with stage := .ended result, lines } := by
  cases result <;> exact ⟨_, rfl⟩

lemma afterStop_eq (stopped result : Except Failure Unit) (c : Client) :
    ∃ lines, c.afterStop stopped result =
      { c with controller := c.controller.note stopped, stage := .ended result, lines } := by
  cases result with
  | error f =>
    obtain ⟨lines, hl⟩ := finish_eq (.error f) { c with controller := c.controller.note stopped }
    exact ⟨lines, hl⟩
  | ok =>
    cases stopped with
    | ok => exact finish_eq (.ok ()) { c with controller := c.controller.note (.ok ()) }
    | error f => exact ⟨_, rfl⟩

/-! ### What a client would ask for -/

/-- Two clients that would ask for the same. -/
structure Alike (c d : Client) : Prop where
  device : d.device = c.device
  base : d.controller.base = c.controller.base
  credentials : d.channel.credentials = c.channel.credentials

lemma Alike.trans {e : Client} (h : c.Alike d) (h' : d.Alike e) : c.Alike e :=
  ⟨h'.device.trans h.device, h'.base.trans h.base, h'.credentials.trans h.credentials⟩

lemma Alike.ask_eq (h : c.Alike d) (a : Action) : d.ask a = c.ask a := by
  simp only [ask, Controller.request, h.device, h.base, h.credentials]

lemma alike_finish (result : Except Failure Unit) (c : Client) : c.Alike (c.finish result) := by
  obtain ⟨lines, hl⟩ := finish_eq result c
  rw [hl]
  exact ⟨rfl, rfl, rfl⟩

lemma alike_afterStop (stopped result : Except Failure Unit) (c : Client) :
    c.Alike (c.afterStop stopped result) := by
  obtain ⟨lines, hl⟩ := afterStop_eq stopped result c
  rw [hl]
  exact ⟨rfl, Controller.base_note .., rfl⟩

lemma alike_leave (result : Except Failure Unit) (c : Client) : c.Alike (c.leave result) := by
  unfold leave
  split_ifs
  · split
    · exact ⟨rfl, rfl, rfl⟩
    · exact alike_afterStop ..
  · exact alike_finish ..

lemma alike_afterCall (c : Client) : c.Alike c.afterCall := by
  unfold afterCall
  split_ifs
  · exact ⟨rfl, rfl, rfl⟩
  · exact alike_leave ..

lemma alike_openChannel (c : Client) : c.Alike c.openChannel := by
  have hcall : c.Alike { c.act .call with system := (c.system.call c.device c.vendor).1 } :=
    ⟨rfl, rfl, System.credentials_call ..⟩
  unfold openChannel
  dsimp only
  split_ifs
  · exact ⟨rfl, rfl, System.credentials_call ..⟩
  · exact hcall.trans (alike_afterCall _)

lemma alike_afterStart (result : Except Failure Unit) (c : Client) :
    c.Alike (c.afterStart result) := by
  unfold afterStart
  dsimp only
  split
  · refine Alike.trans ?_ (alike_openChannel _)
    exact ⟨rfl, Controller.base_note .., rfl⟩
  · refine Alike.trans ?_ (alike_openChannel _)
    exact ⟨rfl, Controller.base_note .., rfl⟩

lemma alike_step (c : Client) (h : Happening) : c.Alike (c.step h) := by
  have hsystem : ∀ y : System, y.channel.credentials = c.channel.credentials →
      c.Alike { c with system := y } := fun y hy => ⟨rfl, rfl, hy⟩
  cases h with
  | answered x =>
    simp only [step]
    split
    · exact alike_afterStart ..
    · exact alike_afterStop ..
    · exact ⟨rfl, rfl, rfl⟩
  | handshake o =>
    simp only [step]
    split
    · exact (hsystem _ (System.credentials_answer ..)).trans (alike_afterCall _)
    · exact ⟨rfl, rfl, rfl⟩
  | channel i hi =>
    have hne : ∀ k, i ≠ .credential k := fun k hk => by
      rw [hk] at hi
      cases hi
    simp only [step]
    split
    · obtain ⟨lines, hl⟩ := tellState_eq c.channel.state { c with system := c.system.step i }
      rw [hl]
      exact ⟨rfl, rfl, System.credentials_step hne _⟩
    · exact ⟨rfl, rfl, rfl⟩
  | report | guard =>
    simp only [step]
    split <;> exact ⟨rfl, rfl, rfl⟩
  | signal =>
    simp only [step]
    split
    · refine Alike.trans ?_ (alike_leave ..)
      exact ⟨rfl, rfl, rfl⟩
    all_goals exact ⟨rfl, rfl, rfl⟩

lemma alike_run (c : Client) (hs : List Happening) : c.Alike (c.run hs) := by
  induction hs generalizing c with
  | nil => exact ⟨rfl, rfl, rfl⟩
  | cons h hs ih => exact (alike_step c h).trans (ih (c.step h))

/-! ### The course of a run -/

/-- The requests to stop the collection that a client makes on its way out. -/
def stops (c : Client) : List Request :=
  if c.collecting then (c.ask .stop).toOption.toList else []

/-- Whether a start was sent and accepted. -/
def accepted (started : Option Request) (reply : Option Exchange) : Bool :=
  started.isSome && reply.any Exchange.accepts

/-- Where a run stands that had `started` to send, and what it has done; `reply` is the first answer
that has come, and `told` whether a signal has told it to stop. -/
inductive Place (started : Option Request) (reply : Option Exchange) (told : Prop) (c : Client) :
    Prop
  | starting {r} (stage : c.stage = .starting r) (start : started = some r)
    (unanswered : reply = none) (untold : ¬told) (deeds : c.deeds = [.request r]) (calls : c.system.calls = [])
    (shut : c.channel.state ≠ .connected)
  | opening (stage : c.stage = .opening) (answered : started.isSome = true → reply.isSome = true)
    (untold : ¬told) (deeds : c.deeds = started.toList.map .request ++ [.call])
    (waits : (c.system.waitingFor? ownCall).isSome = true)
  | streaming {guarded} (stage : c.stage = .streaming guarded)
    (answered : started.isSome = true → reply.isSome = true) (untold : ¬told)
    (deeds : c.deeds = started.toList.map .request ++ [.call])
    (opened : c.system.result? ownCall = some true)
  | failed {f} (out : c.stage.result? = some (.error f))
    (answered : started.isSome = true → reply.isSome = true) (untold : ¬told)
    (deeds : c.deeds = started.toList.map .request ++ .call :: c.stops.map .request)
    (unopened : c.system.result? ownCall = some false)
  | told (out : c.stage.result? = some (.ok ()))
    (answered : started.isSome = true → reply.isSome = true) (told : told)
    (deeds : c.deeds = started.toList.map .request ++ .call :: .hangUp :: c.stops.map .request)
    (opened : c.system.result? ownCall = some true) (shut : c.channel.state = .disconnected)

/-- What holds at any time of a run. -/
structure Fit (started : Option Request) (reply : Option Exchange) (c : Client) : Prop where
  /-- Whoever can start a collection can stop it. -/
  able : started.isSome = true → ∃ r, c.ask .stop = .ok r
  collecting : c.collecting = accepted started reply

structure Course (started : Option Request) (reply : Option Exchange) (told : Prop) (c : Client) :
    Prop extends Fit started reply c where
  place : Place started reply told c

variable {started : Option Request} {reply : Option Exchange} {told : Prop}

lemma leave_eq (h : c.collecting = true → ∃ r, c.ask .stop = .ok r) (result : Except Failure Unit) :
    ∃ stage lines, stage.result? = some result ∧
      c.leave result = { c with stage, lines, deeds := c.deeds ++ c.stops.map .request } := by
  unfold leave stops
  split_ifs with hc
  · obtain ⟨r, hr⟩ := h hc
    exact ⟨.stopping r result, c.lines, rfl, by rw [hr]; rfl⟩
  · obtain ⟨lines, hl⟩ := finish_eq result c
    exact ⟨.ended result, lines, rfl, by rw [hl, List.map_nil, List.append_nil]⟩

lemma Fit.stoppable (h : Fit started reply c) (hc : c.collecting = true) :
    ∃ r, c.ask .stop = .ok r := by
  refine h.able ?_
  rw [h.collecting, accepted, Bool.and_eq_true] at hc
  exact hc.1

lemma Fit.congr (h : Fit started reply c) (ha : c.Alike d) (hc : d.collecting = c.collecting) :
    Fit started reply d :=
  ⟨fun hs => (h.able hs).imp fun _ hr => (ha.ask_eq .stop).trans hr, hc.trans h.collecting⟩

lemma course_leave (h : Fit started reply c) {result : Except Failure Unit}
    (hp : ∀ stage lines, stage.result? = some result →
      Place started reply told { c with stage, lines, deeds := c.deeds ++ c.stops.map .request }) :
    Course started reply told (c.leave result) := by
  obtain ⟨stage, lines, hstage, hleave⟩ := leave_eq h.stoppable result
  rw [hleave]
  exact ⟨⟨h.able, h.collecting⟩, hp stage lines hstage⟩

lemma course_afterCall (h : Fit started reply c)
    (answered : started.isSome = true → reply.isSome = true) (untold : ¬told)
    (deeds : c.deeds = started.toList.map .request ++ [.call]) {b : Bool}
    (hb : c.system.result? ownCall = some b) : Course started reply told c.afterCall := by
  unfold afterCall
  cases b with
  | true =>
    rw [if_pos hb]
    exact ⟨⟨h.able, h.collecting⟩, .streaming rfl answered untold deeds hb⟩
  | false =>
    rw [if_neg (by simp [hb])]
    refine course_leave h fun stage lines hstage => .failed hstage answered untold ?_ hb
    rw [deeds, List.append_assoc]
    rfl

/-- A client that has nothing under way opens the channel. -/
lemma course_openChannel (h : Fit started reply c)
    (answered : started.isSome = true → reply.isSome = true) (untold : ¬told)
    (deeds : c.deeds = started.toList.map .request) (calls : c.system.calls = [])
    (shut : c.channel.state ≠ .connected) : Course started reply told c.openChannel := by
  have hfit : Fit started reply
      { c.act .call with system := (c.system.call c.device c.vendor).1 } :=
    h.congr ⟨rfl, rfl, System.credentials_call c.device c.vendor c.system⟩ rfl
  have hdeeds : (c.act .call).deeds = started.toList.map .request ++ [.call] := by
    rw [← deeds]
    rfl
  have hcases := System.call_cases shut c.device c.vendor
  rw [calls] at hcases
  unfold openChannel
  dsimp only
  split_ifs with hw
  · exact ⟨⟨hfit.able, hfit.collecting⟩, .opening rfl answered untold hdeeds hw⟩
  · exact course_afterCall hfit answered untold hdeeds (hcases.resolve_left hw)

lemma stops_eq (ha : c.Alike d) (hc : d.collecting = c.collecting) : d.stops = c.stops := by
  simp only [stops, ha.ask_eq, hc]

/-- A run that is on its way out stays so, with its result. -/
lemma step_of_result {result : Except Failure Unit} (hr : c.stage.result? = some result)
    (h : Happening) (hguard : h = .signal → c.stage.isGuarded = true) :
    ∃ stage controller lines, stage.result? = some result ∧
      (c.stage.isGuarded = true → stage.isGuarded = true) ∧
      c.step h = { c with stage, controller, lines } := by
  have hstay : ∃ stage controller lines, stage.result? = some result ∧
      (c.stage.isGuarded = true → stage.isGuarded = true) ∧
      c = { c with stage, controller, lines } := ⟨_, _, _, hr, id, rfl⟩
  cases hs : c.stage with
  | stopping r result' =>
    obtain rfl : result' = result := by simpa [hs, Stage.result?] using hr
    cases h with
    | answered x =>
      obtain ⟨lines, hl⟩ := afterStop_eq (x.settle r) result' c
      refine ⟨.ended result', c.controller.note (x.settle r), lines, rfl, fun _ => rfl, ?_⟩
      simp only [step, hs]
      exact hl
    | signal =>
      have hg := hguard rfl
      rw [hs] at hg
      cases result' with
      | error => cases hg
      | ok => simpa only [step, hs] using hstay
    | _ => simpa only [step, hs] using hstay
  | ended result' => cases h <;> simpa only [step, hs] using hstay
  | _ => rw [hs] at hr; cases hr

/-- While the channel streams the run goes on, unless a signal comes. -/
lemma step_of_streaming {guarded : Bool} (hs : c.stage = .streaming guarded) {h : Happening}
    (hh : h ≠ .signal) : ∃ guarded' system lines, (guarded = true → guarded' = true) ∧
      c.step h = { c with stage := .streaming guarded', system, lines } ∧
      system.channel.credentials = c.channel.credentials ∧
      ∀ r, c.system.result? ownCall = some r → system.result? ownCall = some r := by
  have hstay : c = { c with stage := .streaming guarded } := by rw [← hs]
  cases h with
  | signal => exact absurd rfl hh
  | channel i hi =>
    have hne : ∀ k, i ≠ .credential k := fun k hk => by
      rw [hk] at hi
      cases hi
    obtain ⟨lines, hl⟩ := tellState_eq c.channel.state { c with system := c.system.step i }
    refine ⟨guarded, c.system.step i, lines, id, ?_, System.credentials_step hne _,
      fun r hr => System.result?_step hr i⟩
    simp only [step, hs]
    rw [← hs]
    exact hl
  | guard =>
    exact ⟨true, c.system, c.lines, fun _ => rfl, by simp only [step, hs], rfl, fun _ hr => hr⟩
  | report =>
    refine ⟨guarded, c.system, c.report.lines, id, ?_, rfl, fun _ hr => hr⟩
    simp only [step, hs]
    exact congrArg report hstay
  | _ =>
    refine ⟨guarded, c.system, c.lines, id, ?_, rfl, fun _ hr => hr⟩
    simp only [step, hs]
    exact hstay

/-- The call to start the collection is over. -/
lemma course_afterStart {result : Except Failure Unit}
    (able : started.isSome = true → ∃ r, c.ask .stop = .ok r) (idle : c.collecting = false)
    (haccepted : accepted started reply = true ↔ result = .ok ())
    (answered : started.isSome = true → reply.isSome = true) (untold : ¬told)
    (deeds : c.deeds = started.toList.map .request) (calls : c.system.calls = [])
    (shut : c.channel.state ≠ .connected) : Course started reply told (c.afterStart result) := by
  have hfit : ∀ (lines : List LogLine) (collecting : Bool),
      collecting = accepted started reply →
      Fit started reply { c with controller := c.controller.note result, lines, collecting } :=
    fun lines collecting hcollecting => by
      refine ⟨fun hs => (able hs).imp fun _ hr => (Alike.ask_eq ?_ .stop).trans hr, hcollecting⟩
      exact ⟨rfl, Controller.base_note .., rfl⟩
  unfold afterStart
  cases result with
  | ok =>
    exact course_openChannel (hfit _ true (haccepted.2 rfl).symm) answered untold deeds calls shut
  | error f =>
    have hrefused : accepted started reply = false :=
      Bool.eq_false_iff.2 fun ha => nomatch haccepted.1 ha
    exact course_openChannel (hfit _ c.collecting (idle.trans hrefused.symm)) answered untold deeds
      calls shut

/-- A run that streams is told to stop. -/
lemma Course.signalled (hc : Course started reply told c) (hs : c.stage = .streaming true)
    {told' : Prop} (htold : told') : Course started (reply.or none) told' c.signalled := by
  rw [Option.or_none]
  cases hc.place with
  | streaming stage answered untold deeds opened =>
    let d : Client := { (c.say .info "Shutdown signal received").act .hangUp with
      system := c.system.step .disconnect }
    have hfit : Fit started reply d := hc.toFit.congr ⟨rfl, rfl, rfl⟩ rfl
    have hdeeds : d.deeds = started.toList.map .request ++ [.call] ++ [.hangUp] :=
      congrArg (· ++ [Deed.hangUp]) deeds
    refine course_leave (c := d) hfit fun stage lines hstage =>
      .told hstage answered htold ?_ (System.result?_step opened .disconnect) rfl
    change d.deeds ++ d.stops.map .request = _
    rw [hdeeds, List.append_assoc, List.append_assoc]
    rfl
  | starting stage | opening stage => rw [stage] at hs; cases hs
  | failed out | told out => rw [hs] at out; cases out

/-- A step keeps to the course, unless it is a signal that nothing handles. -/
lemma Course.step (hc : Course started reply told c) (h : Happening)
    (hguard : h = .signal → c.stage.isGuarded = true) :
    Course started (reply.or h.answer?) (told ∨ h = .signal ∧ c.stage = .streaming true)
      (c.step h) := by
  by_cases hsig : h = .signal ∧ c.stage = .streaming true
  · obtain ⟨rfl, hs⟩ := hsig
    have hstep : c.step .signal = c.signalled := by simp only [Client.step, hs]
    rw [hstep]
    exact hc.signalled hs (.inr ⟨rfl, hs⟩)
  rw [or_iff_left hsig]
  -- Once the start was answered a further answer counts for nothing.
  have hlater : (started.isSome = true → reply.isSome = true) →
      (started.isSome = true → (reply.or h.answer?).isSome = true) ∧
        Fit started (reply.or h.answer?) c := fun answered => by
    refine ⟨fun hs => by simp [answered hs], hc.able, hc.collecting.trans ?_⟩
    cases started with
    | none => rfl
    | some r =>
      obtain ⟨x, rfl⟩ := Option.isSome_iff_exists.1 (answered rfl)
      rfl
  cases hc.place with
  | @starting r stage start unanswered untold deeds calls shut =>
    subst start unanswered
    cases h with
    | answered x =>
      have hstep : c.step (.answered x) = c.afterStart (x.settle r) := by
        simp only [Client.step, stage]
      have haccepted : accepted (some r) (some x) = true ↔ x.settle r = .ok () :=
        (x.settle_eq_ok_iff r).symm
      rw [hstep]
      exact course_afterStart hc.able hc.collecting haccepted (fun _ => rfl) untold deeds calls shut
    | signal =>
      have hg := hguard rfl
      rw [stage] at hg
      cases hg
    | _ =>
      simp only [Client.step, stage]
      exact ⟨hc.toFit, .starting stage rfl rfl untold deeds calls shut⟩
  | opening stage answered untold deeds waits =>
    obtain ⟨answered, hfit⟩ := hlater answered
    cases h with
    | handshake o =>
      obtain ⟨b, hb⟩ := System.exists_result_answer waits o
      have hstep : c.step (.handshake o) =
          { c with system := c.system.answer ownCall o }.afterCall := by
        simp only [Client.step, stage]
      rw [hstep]
      exact course_afterCall (hfit.congr ⟨rfl, rfl, System.credentials_answer ..⟩ rfl) answered
        untold deeds hb
    | signal =>
      have hg := hguard rfl
      rw [stage] at hg
      cases hg
    | _ =>
      simp only [Client.step, stage]
      exact ⟨hfit, .opening stage answered untold deeds waits⟩
  | @streaming guarded stage answered untold deeds opened =>
    obtain ⟨answered, hfit⟩ := hlater answered
    have hh : h ≠ .signal := fun hh => by
      have hg := hguard hh
      rw [stage] at hg
      cases guarded with
      | true => exact hsig ⟨hh, stage⟩
      | false => cases hg
    obtain ⟨guarded, system, lines, -, hstep, hcred, hresult⟩ := step_of_streaming stage hh
    rw [hstep]
    exact ⟨hfit.congr ⟨rfl, rfl, hcred⟩ rfl,
      .streaming rfl answered untold deeds (hresult _ opened)⟩
  | failed out answered untold deeds unopened =>
    obtain ⟨answered, hfit⟩ := hlater answered
    obtain ⟨stage, controller, lines, hstage, -, hstep⟩ := step_of_result out h hguard
    have halike := hstep ▸ alike_step c h
    rw [hstep]
    refine ⟨hfit.congr halike rfl, .failed hstage answered untold ?_ unopened⟩
    rw [stops_eq halike rfl]
    exact deeds
  | told out answered told deeds opened shut =>
    obtain ⟨answered, hfit⟩ := hlater answered
    obtain ⟨stage, controller, lines, hstage, -, hstep⟩ := step_of_result out h hguard
    have halike := hstep ▸ alike_step c h
    rw [hstep]
    refine ⟨hfit.congr halike rfl, .told hstage answered told ?_ opened shut⟩
    rw [stops_eq halike rfl]
    exact deeds

/-! ### Whole runs -/

/-- Every signal finds a run that handles it, or one that is over. -/
def IsPatient (c : Client) (hs : List Happening) : Prop :=
  ∀ before after, hs = before ++ .signal :: after → (c.run before).stage.isGuarded = true

/-- A signal has come while the run waited for one. -/
def IsTold (c : Client) (hs : List Happening) : Prop :=
  ∃ before after, hs = before ++ .signal :: after ∧ (c.run before).stage = .streaming true

/-- The first answer that has come. -/
def reply? (hs : List Happening) : Option Exchange := hs.findSome? Happening.answer?

lemma run_concat (c : Client) (hs : List Happening) (h : Happening) :
    c.run (hs ++ [h]) = (c.run hs).step h := by
  simp [run]

lemma run_append (c : Client) (hs later : List Happening) :
    c.run (hs ++ later) = (c.run hs).run later := by
  simp [run]

lemma isTold_concat : c.IsTold (hs ++ [h]) ↔
    c.IsTold hs ∨ h = .signal ∧ (c.run hs).stage = .streaming true := by
  constructor
  · rintro ⟨before, after, he, hs'⟩
    rcases List.eq_nil_or_concat after with rfl | ⟨rest, x, rfl⟩
    · obtain ⟨rfl, hh⟩ := List.append_inj' he rfl
      exact .inr ⟨List.head_eq_of_cons_eq hh, hs'⟩
    · rw [List.concat_eq_append, ← List.cons_append, ← List.append_assoc] at he
      exact .inl ⟨before, rest, (List.append_inj' he rfl).1, hs'⟩
  · rintro (⟨before, after, rfl, hs'⟩ | ⟨rfl, hs'⟩)
    · exact ⟨before, after ++ [h], by rw [List.append_assoc, List.cons_append], hs'⟩
    · exact ⟨hs, [], rfl, hs'⟩

/-- A run that no signal finds unguarded keeps to its course. -/
lemma Course.run (hc : Course started none False c) (hp : c.IsPatient hs) :
    Course started (reply? hs) (c.IsTold hs) (c.run hs) := by
  induction hs using List.reverseRecOn with
  | nil =>
    have htold : ¬c.IsTold [] := fun ⟨before, after, h, _⟩ => by simp at h
    rwa [eq_false htold]
  | append_singleton hs h ih =>
    have hreply : reply? (hs ++ [h]) = (reply? hs).or h.answer? := by
      rw [reply?, List.findSome?_append]
      simp [reply?]
    rw [run_concat, hreply, propext isTold_concat]
    refine (ih fun before after he => ?_).step h fun hh => ?_
    · exact hp before (after ++ [h]) (by rw [he, List.append_assoc]; rfl)
    · exact hp hs [] (by rw [hh])

/-- The request to start the collection that a client has to send. -/
def start? (idle : Bool) (c : Client) : Option Request :=
  if idle then none else (c.ask .start).toOption

/-- A client that has done nothing enters its course. -/
lemma course_enter {idle : Bool}
    (able : (c.start? idle).isSome = true → ∃ r, c.ask .stop = .ok r) (hc : c.collecting = false)
    (deeds : c.deeds = []) (calls : c.system.calls = []) (shut : c.channel.state ≠ .connected) :
    Course (c.start? idle) none False (c.enter idle) := by
  have hidle : c.collecting = accepted (c.start? idle) none := by
    rw [hc, accepted, Option.any_none, Bool.and_false]
  have hfit : Fit (c.start? idle) none c := ⟨able, hidle⟩
  unfold enter
  split_ifs with hi
  · have hnone : c.start? idle = none := if_pos hi
    rw [hnone] at hfit ⊢
    exact course_openChannel hfit nofun not_false deeds calls shut
  · cases hs : c.ask .start with
    | ok r =>
      have hstart : c.start? idle = some r := by
        rw [start?, if_neg hi, hs]
        rfl
      rw [hstart] at hfit ⊢
      refine ⟨hfit.congr ⟨rfl, rfl, rfl⟩ rfl, .starting rfl rfl rfl not_false ?_ calls shut⟩
      exact congrArg (· ++ [Deed.request r]) deeds
    | error f =>
      have hnone : c.start? idle = none := by
        rw [start?, if_neg hi, hs]
        rfl
      rw [hnone]
      exact course_afterStart nofun hc (by simp [accepted]) nofun not_false deeds calls shut

end Client
end LiveTelemetry
