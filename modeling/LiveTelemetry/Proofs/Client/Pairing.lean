import LiveTelemetry.Client.Program
import LiveTelemetry.Proofs.Client.Course
import LiveTelemetry.Proofs.Control.Request

/-!
The requests of a whole program. Main statement: in every run that no signal finds unguarded the
start comes first, if one is due, and the stop comes last, exactly if the start was accepted; and
the exit status tells whether the run was told to stop.
-/
namespace LiveTelemetry

namespace Client

variable {c d : Client}

/-- The start of the collection is asked for, a credential is held, and the request can be put
together. -/
def IsDue (o : Options) (s : Settings) (c : Client) : Prop :=
  o.noCollect = false ∧ ∃ k ∈ s.auth.credentialSlot.held,
    Request.Sendable c.controller.base .start c.device k

/-- What is done on the way out, with the requests to stop the collection. -/
def closing (stops : List Request) : Option (Except Failure Unit) → List Deed
  | none => []
  | some (.error _) => stops.map .request
  | some (.ok ()) => .hangUp :: stops.map .request

/-- What a run has done after some happenings, and what it has come to. -/
structure Pairs (o : Options) (s : Settings) (c : Client) (hs : List Happening) : Prop where
  idle : ¬c.IsDue o s → (c.run hs).sent = []
  /-- Nothing else is done while the start is under way. It is stopped if it was accepted: once the
  channel has failed to open, or after it was disconnected. -/
  due : c.IsDue o s → ∃ k start stop, k ∈ s.auth.credentialSlot.held ∧
    Request.Carries c.controller.base .start c.device k start ∧
    Request.Carries c.controller.base .stop c.device k stop ∧
    (reply? hs = none → (c.run hs).deeds = [.request start]) ∧
    ∀ x, reply? hs = some x → (c.run hs).deeds = .request start :: .call ::
      closing (if x.accepts then [stop] else []) (c.run hs).stage.result?
  failed : ∀ f, (c.run hs).stage.result? = some (.error f) →
    (c.run hs).system.result? ownCall = some false
  told : (c.run hs).stage.result? = some (.ok ()) →
    c.IsTold hs ∧ (c.run hs).channel.state = .disconnected
  status : ∀ n, (c.run hs).status? = some n →
    (n = 0 ↔ (c.run hs).system.result? ownCall = some true ∧ c.IsTold hs)

/-! ### The client that a program launches -/

/-- A client has been launched that was `f` before it did anything. -/
structure Launched (o : Options) (s : Settings) (f c : Client) : Prop where
  device : f.device = ⟨Text.trim o.device⟩
  notBlank : f.device.isBlank = false
  path : ∃ path, f.controller.base.path = .segments path
  slot : f.channel.credentials = s.auth.credentialSlot
  alike : f.Alike c
  course : Course (f.start? o.noCollect) none False c

lemma alike_enter (idle : Bool) (c : Client) : c.Alike (c.enter idle) := by
  unfold enter
  split_ifs
  · exact alike_openChannel c
  · split
    · exact ⟨rfl, rfl, rfl⟩
    · exact alike_afterStart ..

variable {idle : Bool} {path : List String} {k : Credential}

lemma ask_of_held (hd : c.device.isBlank = false) (hk : c.channel.credentials.held = some k)
    (a : Action) : c.ask a = Request.build c.controller.base a c.device k := by
  simp [ask, Controller.request, hd, hk]

lemma ask_of_empty (hd : c.device.isBlank = false) (hk : c.channel.credentials.held = none)
    (a : Action) : c.ask a = .error .noCredential := by
  simp [ask, Controller.request, hd, hk]

/-- A client that may start the collection has a start to send if the request can be put together,
and then it can stop it too. -/
lemma start?_cases (hpath : c.controller.base.path = .segments path)
    (hd : c.device.isBlank = false) :
    c.start? idle = none ∧ (idle = false → ∀ k ∈ c.channel.credentials.held,
      ¬Request.Sendable c.controller.base .start c.device k) ∨
    idle = false ∧ ∃ k ∈ c.channel.credentials.held,
      Request.Sendable c.controller.base .start c.device k ∧
      ∃ start stop, c.start? idle = some start ∧ c.ask .stop = .ok stop ∧
        Request.Carries c.controller.base .start c.device k start ∧
        Request.Carries c.controller.base .stop c.device k stop := by
  cases idle with
  | true => exact .inl ⟨rfl, nofun⟩
  | false =>
    have hstart : c.start? false = (c.ask .start).toOption := rfl
    rw [hstart]
    cases hk : c.channel.credentials.held with
    | none => exact .inl ⟨by rw [ask_of_empty hd hk]; rfl, fun _ _ h => nomatch h⟩
    | some k =>
      rw [ask_of_held hd hk, ask_of_held hd hk]
      rcases Request.build_cases hpath .start c.device k with
        ⟨start, hbuild, hs, hcarries⟩ | ⟨f, hbuild, hs, -⟩
      · rcases Request.build_cases hpath .stop c.device k with
          ⟨stop, hbuild', -, hcarries'⟩ | ⟨f, -, hs', -⟩
        · exact .inr ⟨rfl, k, rfl, hs, start, stop, by rw [hbuild]; rfl, hbuild', hcarries,
            hcarries'⟩
        · exact absurd (hs.stop hpath) hs'
      · refine .inl ⟨by rw [hbuild]; rfl, fun _ k' hk' => ?_⟩
        obtain rfl := Option.some.inj hk'
        exact hs

/-- A run begins if its device and its address are accepted. -/
lemma begin_cases (o : Options) (s : Settings) (clock : Channel.Clock) :
    (∃ lines f, Client.begin o s clock = (lines, .error f) ∧
      ¬(Text.isBlank o.device = false ∧ ∃ k, Controller.new s.control = .ok k)) ∨
    ∃ lines k, Client.begin o s clock =
        (lines, .ok ((fresh o s clock ⟨Text.trim o.device⟩ k lines).enter o.noCollect)) ∧
      Text.isBlank o.device = false ∧ Controller.new s.control = .ok k := by
  unfold Client.begin
  cases hd : Text.isBlank o.device with
  | true =>
    have hparse : DeviceId.parse o.device = .error DeviceId.required := if_pos hd
    rw [hparse]
    exact .inl ⟨_, _, rfl, fun h => nomatch h.1⟩
  | false =>
    have hparse : DeviceId.parse o.device = .ok ⟨Text.trim o.device⟩ := if_neg (by simp [hd])
    rw [hparse]
    cases hk : Controller.new s.control with
    | error f => exact .inl ⟨_, f, rfl, fun ⟨_, _, hk'⟩ => nomatch hk'⟩
    | ok k => exact .inr ⟨_, k, rfl, rfl, rfl⟩

lemma launched_enter {o : Options} {s : Settings} {clock : Channel.Clock} {controller : Controller}
    {lines : List LogLine} (hd : Text.isBlank (Text.trim o.device) = false)
    (hpath : ∃ path, controller.base.path = .segments path) :
    Launched o s (fresh o s clock ⟨Text.trim o.device⟩ controller lines)
      ((fresh o s clock ⟨Text.trim o.device⟩ controller lines).enter o.noCollect) := by
  refine ⟨rfl, hd, hpath, rfl, alike_enter _ _, course_enter (fun hstart => ?_) rfl rfl rfl nofun⟩
  obtain ⟨path, hpath⟩ := hpath
  obtain ⟨hnone, -⟩ | ⟨-, -, -, -, -, stop, -, hstop, -⟩ :=
    start?_cases (c := fresh o s clock ⟨Text.trim o.device⟩ controller lines) hpath hd
  · rw [hnone] at hstart
    cases hstart
  · exact ⟨stop, hstop⟩

lemma Launched.start?_cases {o : Options} {s : Settings} {f : Client} (h : Launched o s f c) :
    f.start? o.noCollect = none ∧ (o.noCollect = false → ∀ k ∈ s.auth.credentialSlot.held,
      ¬Request.Sendable c.controller.base .start c.device k) ∨
    o.noCollect = false ∧ ∃ k ∈ s.auth.credentialSlot.held,
      Request.Sendable c.controller.base .start c.device k ∧
      ∃ start stop, f.start? o.noCollect = some start ∧ f.ask .stop = .ok stop ∧
        Request.Carries c.controller.base .start c.device k start ∧
        Request.Carries c.controller.base .stop c.device k stop := by
  obtain ⟨path, hpath⟩ := h.path
  rw [← h.slot, h.alike.base, h.alike.device]
  exact Client.start?_cases hpath h.notBlank

/-! ### What a run on its course has done -/

variable {started : Option Request} {reply : Option Exchange} {told : Prop}

lemma Course.deeds_eq (h : Course started reply told d) :
    (∃ r, d.stage = .starting r ∧ started = some r ∧ reply = none ∧ d.deeds = [.request r]) ∨
    (started.isSome = true → reply.isSome = true) ∧
      d.deeds = started.toList.map .request ++ .call :: closing d.stops d.stage.result? := by
  cases h.place with
  | starting stage start unanswered untold deeds =>
    exact .inl ⟨_, stage, start, unanswered, deeds⟩
  | opening stage answered untold deeds | streaming stage answered untold deeds =>
    refine .inr ⟨answered, ?_⟩
    rw [stage]
    exact deeds
  | failed out answered untold deeds | told out answered told deeds =>
    refine .inr ⟨answered, ?_⟩
    rw [out]
    exact deeds

lemma Course.own_of_failed (h : Course started reply told d) {f : Failure}
    (hf : d.stage.result? = some (.error f)) : d.system.result? ownCall = some false := by
  cases h.place with
  | failed out answered untold deeds unopened => exact unopened
  | told out => rw [hf] at out; cases out
  | starting stage | opening stage | streaming stage => rw [stage] at hf; cases hf

lemma Course.of_told (h : Course started reply told d) (ho : d.stage.result? = some (.ok ())) :
    told ∧ d.system.result? ownCall = some true ∧ d.channel.state = .disconnected := by
  cases h.place with
  | told out answered told deeds opened shut => exact ⟨told, opened, shut⟩
  | failed out => rw [ho] at out; cases out
  | starting stage | opening stage | streaming stage => rw [stage] at ho; cases ho

lemma sent_closing_nil (result : Option (Except Failure Unit)) :
    (closing [] result).filterMap Deed.request? = [] := by
  rcases result with - | - | - <;> rfl

lemma Launched.pairs {o : Options} {s : Settings} {f : Client} {hs : List Happening}
    (h : Launched o s f c) (hp : c.IsPatient hs) : c.Pairs o s hs := by
  have hrun := h.course.run hp
  have hstop : (c.run hs).ask .stop = f.ask .stop :=
    (h.alike.trans (alike_run c hs)).ask_eq .stop
  have hstarts := h.start?_cases
  refine ⟨fun hidle => ?_, fun hdue => ?_, fun _ => hrun.own_of_failed, fun ho => ?_,
    fun n hn => ?_⟩
  · obtain ⟨hnone, -⟩ | ⟨hi, k, hk, hs, -⟩ := hstarts
    · rw [hnone] at hrun
      have hstops : (c.run hs).stops = [] := if_neg (by rw [hrun.collecting]; simp [accepted])
      obtain ⟨r, -, hr, -⟩ | ⟨-, hdeeds⟩ := hrun.deeds_eq
      · cases hr
      · rw [sent, hdeeds, hstops]
        exact sent_closing_nil _
    · exact absurd ⟨hi, k, hk, hs⟩ hidle
  · obtain ⟨-, hno⟩ | ⟨-, k, hk, -, start, stop, hstart, hask, hcarries, hcarries'⟩ := hstarts
    · obtain ⟨hi, k, hk, hs⟩ := hdue
      exact absurd hs (hno hi k hk)
    · rw [hstart] at hrun
      refine ⟨k, start, stop, hk, hcarries, hcarries', fun hnone => ?_, fun x hx => ?_⟩
      · obtain ⟨r, -, hr, -, hdeeds⟩ | ⟨hanswered, -⟩ := hrun.deeds_eq
        · rw [hdeeds, Option.some.inj hr]
        · rw [hnone] at hanswered
          cases hanswered rfl
      · rw [hx] at hrun
        have hstops : (c.run hs).stops = if x.accepts then [stop] else [] := by
          have hcollecting : (c.run hs).collecting = x.accepts := hrun.collecting
          rw [stops, hcollecting, hstop, hask]
          rfl
        obtain ⟨r, -, -, hr, -⟩ | ⟨-, hdeeds⟩ := hrun.deeds_eq
        · cases hr
        · rw [← hstops]
          exact hdeeds
  · obtain ⟨htold, -, hshut⟩ := hrun.of_told ho
    exact ⟨htold, hshut⟩
  · unfold status? at hn
    split at hn
    · next hstage =>
      obtain ⟨htold, hopened, -⟩ := hrun.of_told (by rw [hstage]; rfl)
      exact iff_of_true (Option.some.inj hn).symm ⟨hopened, htold⟩
    · next g hstage =>
      have hfailed := hrun.own_of_failed (f := g) (by rw [hstage]; rfl)
      rw [hfailed]
      exact iff_of_false (fun h0 => by simp [h0] at hn) fun h => by simp at h
    · cases hn

end Client

namespace Invocation

open Client

/-- The settings, the device and the address of the service are all accepted. -/
def IsSound (i : Invocation) (o : Options) : Prop :=
  ∃ s, i.load o = .ok s ∧ Text.isBlank o.device = false ∧ ∃ k, Controller.new s.control = .ok k

/-- A program launches a client if its settings, its device and its address are accepted, and is
over at once otherwise. -/
lemma launch_cases (i : Invocation) (o : Options) (clock : Channel.Clock) :
    (∃ r, i.launch o clock = .error r ∧ ¬i.IsSound o ∧ r.status = 1 ∧ r.sent = []) ∨
    ∃ s f c, i.launch o clock = .ok (s, c) ∧ i.IsSound o ∧ i.load o = .ok s ∧
      Launched o s f c := by
  cases hs : i.load o with
  | error f =>
    refine .inl ⟨_, by simp only [launch, hs]; rfl, ?_, rfl, rfl⟩
    rintro ⟨s, hs', -⟩
    cases hs.symm.trans hs'
  | ok s =>
    have hsound : i.IsSound o →
        Text.isBlank o.device = false ∧ ∃ k, Controller.new s.control = .ok k := by
      rintro ⟨s', hs', hd, hk⟩
      obtain rfl := Except.ok.inj (hs.symm.trans hs')
      exact ⟨hd, hk⟩
    rcases Client.begin_cases o s clock with ⟨lines, f, hbegin, hno⟩ | ⟨lines, k, hbegin, hd, hk⟩
    · exact .inl ⟨_, by simp only [launch, hs, hbegin]; rfl, fun h => hno (hsound h), rfl, rfl⟩
    · refine .inr ⟨s, fresh o s clock ⟨Text.trim o.device⟩ k lines, _,
        by simp only [launch, hs, hbegin]; rfl, ⟨s, hs, hd, k, hk⟩, rfl, ?_⟩
      exact launched_enter ((Text.isBlank_trim o.device).trans hd) (Controller.base_of_new hk)

/-- A program for one device, with a token from a variable. -/
def withToken (token : String) : Invocation :=
  ⟨["-d", " r1 "], [], [("NETPULSE__AUTH__TOKEN", token)]⟩

lemma exists_of_launch {i : Invocation} {o : Options} {clock : Channel.Clock} {α : Type}
    {f : Settings × Client → α} {a : α} (h : (i.launch o clock).toOption.map f = some a) :
    ∃ s c, i.launch o clock = .ok (s, c) ∧ f (s, c) = a := by
  cases hl : i.launch o clock with
  | error r =>
    rw [hl] at h
    cases h
  | ok x =>
    rw [hl] at h
    exact ⟨x.1, x.2, rfl, Option.some.inj h⟩

end Invocation
end LiveTelemetry
