import LiveTelemetry.Client.Run
import LiveTelemetry.Proofs.Channel.Failures
import LiveTelemetry.Proofs.Channel.Subscription
import LiveTelemetry.Proofs.Control.Calls
import LiveTelemetry.Settings.Load

/-!
What the check of settings is good for. Main statement: with settings that have passed it, every
request and every subscription has an address, so that nothing fails for want of settings, and the
store and the log have room for just what was asked for.
-/
namespace LiveTelemetry

/-! ### Addresses -/

namespace Url

variable {cs : List Char} {scheme raw : String} {u : Url}

lemma segments_of_afterSlashes (h : afterSlashes scheme cs = .ok u) :
    ∃ path, u.path = .segments path := by
  obtain ⟨a, -, h⟩ := exists_of_bind_eq_ok h
  cases h
  exact ⟨_, rfl⟩

lemma segments_of_fileAddress (h : fileAddress cs = .ok u) : ∃ path, u.path = .segments path := by
  unfold fileAddress at h
  split at h
  split_ifs at h
  · cases h
    exact ⟨_, rfl⟩
  · obtain ⟨host, -, h⟩ := exists_of_bind_eq_ok h
    cases h
    exact ⟨_, rfl⟩

/-- An address of a special scheme has a path with structure, however it is written. -/
lemma segments_of_parse (h : parse raw = .ok u) (hs : isSpecial u.scheme = true) :
    ∃ path, u.path = .segments path := by
  unfold parse parseChars at h
  split at h
  · cases h
  · split_ifs at h with hfile hspecial
    · exact segments_of_fileAddress h
    · exact segments_of_afterSlashes h
    · split at h
      · exact segments_of_afterSlashes h
      · -- Without an authority the scheme is the one that was found not to be special.
        cases h
        exact absurd hs hspecial

end Url

namespace Settings

/-- What settings have to be good for. -/
structure Usable (s : Settings) : Prop where
  dataPoints : 0 < s.history.maxDataPoints.toNat
  events : 0 < s.history.maxEvents.toNat
  channel : ∃ u, Url.parse s.channel.url = .ok u
  control : ∃ u path, Url.parse s.control.apiUrl = .ok u ∧ u.path = .segments path

lemma pos_of_checkPositive {field : String} {n : UInt64} (h : checkPositive field n = .ok ()) :
    0 < n.toNat := by
  unfold checkPositive at h
  split_ifs at h with hn
  exact Nat.pos_of_ne_zero fun h0 => hn (UInt64.toNat_inj.1 h0)

lemma parse_of_checkUrl {field raw : String} {schemes : List String}
    (h : checkUrl field raw schemes = .ok ()) :
    ∃ u, Url.parse raw = .ok u ∧ u.scheme ∈ schemes := by
  unfold checkUrl at h
  split_ifs at h
  split at h
  · cases h
  · next u hu =>
    split_ifs at h with hs
    exact ⟨u, hu, List.contains_iff_mem.1 hs⟩

lemma usable_of_check {s : Settings} (h : s.check = .ok ()) : s.Usable := by
  obtain ⟨_, hdata, h⟩ := Url.exists_of_bind_eq_ok h
  obtain ⟨_, hevents, h⟩ := Url.exists_of_bind_eq_ok h
  obtain ⟨_, -, h⟩ := Url.exists_of_bind_eq_ok h
  obtain ⟨_, hchannel, hcontrol⟩ := Url.exists_of_bind_eq_ok h
  obtain ⟨u, hu, -⟩ := parse_of_checkUrl hchannel
  obtain ⟨v, hv, hscheme⟩ := parse_of_checkUrl hcontrol
  have hspecial : ∀ scheme ∈ ["http", "https"], Url.isSpecial scheme = true := by decide
  obtain ⟨path, hpath⟩ := Url.segments_of_parse hv (hspecial _ hscheme)
  exact ⟨pos_of_checkPositive hdata, pos_of_checkPositive hevents, ⟨u, hu⟩, ⟨v, path, hv, hpath⟩⟩

end Settings

/-! ### Calls of the control service -/

namespace Controller

lemma new_of_segments {s : ControlSettings} {u : Url} {path : List String}
    (hu : Url.parse s.apiUrl = .ok u) (hpath : u.path = .segments path) :
    new s = .ok ⟨u, s.timeoutMilliseconds, none⟩ := by
  have hplain : u.isPlain = false := by
    unfold Url.isPlain
    rw [hpath]
  simp only [new, hu, hplain, Bool.false_eq_true, if_false]

variable {c : Controller} {path : List String}

lemma Issued.verdict_ne_configuration (base : Url) (i : Issued) (status : Option UInt16) :
    i.verdict base ≠ .error (.configuration, status) := by
  unfold verdict
  split_ifs
  · simp
  · cases hf : i.command.fate with
    | answered code body =>
      rw [Exchange.verdict]
      split_ifs <;> simp
    | unreachable => simp [Exchange.verdict]
    | expired => simp [Exchange.verdict]
  · simp

/-- A call may fail for many reasons, but not for want of settings. -/
lemma kind_of_attempt (h : c.base.path = .segments path) (slot : CredentialSlot) (m : Command)
    {f : Failure} (hf : (c.attempt slot (fun _ => m.fate) m.action m.device).2 = .error f) :
    f.kind ≠ .configuration := by
  intro hkind
  obtain ⟨hsummary, -⟩ := attempt_cases h slot m
  rw [hf, summary, Except.mapError, hkind] at hsummary
  exact Issued.verdict_ne_configuration _ _ _ hsummary.symm

namespace Session

/-- No call of a session has failed for want of settings. -/
structure IsConfigured (x : Session) : Prop where
  base : ∃ path, x.controller.base.path = .segments path
  results : ∀ f, .error f ∈ x.results → f.kind ≠ .configuration
  lastError : ∀ f ∈ x.controller.lastError, f.kind ≠ .configuration

lemma IsConfigured.perform {x : Session} (h : x.IsConfigured) (op : Operation) :
    (x.perform op).IsConfigured := by
  obtain ⟨⟨path, hbase⟩, hresults, hlast⟩ := h
  cases op with
  | credential held => exact ⟨⟨path, hbase⟩, hresults, hlast⟩
  | call m =>
    have hkind := fun f => @kind_of_attempt _ _ hbase x.slot m f
    refine ⟨⟨path, ?_⟩, fun f hf => ?_, fun f hf => ?_⟩
    · simp only [Session.perform]
      split_ifs
      · rw [base_note]
        exact hbase
      · exact hbase
    · rw [results_call, List.mem_append, List.mem_singleton] at hf
      rcases hf with hf | hf
      · exact hresults f hf
      · exact hkind f hf.symm
    · rw [lastError_call] at hf
      split_ifs at hf
      · split at hf
        · cases hf
        · next he =>
          cases hf
          exact hkind f he
      · exact hlast f hf

lemma IsConfigured.performAll {x : Session} (h : x.IsConfigured) (ops : List Operation) :
    (x.performAll ops).IsConfigured := by
  induction ops generalizing x with
  | nil => exact h
  | cons op ops ih => exact ih (h.perform op)

end Session
end Controller

/-! ### Calls for the channel -/

/-- The failures that an input brings from outside are failures of the push channel. -/
structure Input.IsGenuine (i : Input) : Prop where
  outcome : ∀ n f, i = .outcome n (.failed f) → ∃ reason, f = .ofChannel reason
  ending : ∀ r f, i = .ending r (.failed f) → ∃ reason, f = .ofChannel reason

namespace System

variable {s : System}

/-- Where every subscription has an address, no input leaves an error for want of settings. -/
lemma kind_of_leaves (haddress : ∀ t k, ∃ u, Target.address s.channel.settings t k = .ok u)
    {i : Input} (hi : i.IsGenuine) {f : Failure} (h : s.Leaves i f) : f.kind ≠ .configuration := by
  have hchannel : ∀ reason, (Failure.ofChannel reason).kind ≠ .configuration := fun reason h =>
    nomatch h
  cases h with
  | @rejected n k r f hk hr hf =>
    have hkind := Channel.kind_of_rejectsAt hr
    rw [hf] at hkind
    obtain ⟨t, p, x⟩ := k
    intro hconfiguration
    cases hr with
    | noAddress hk hu =>
      obtain ⟨u, hu'⟩ := haddress t _
      cases hu.symm.trans hu'
    | _ => simp [Channel.Rejection.kind?, hconfiguration] at hkind
  | refused n f =>
    obtain ⟨reason, rfl⟩ := hi.outcome n f rfl
    exact hchannel reason
  | broken r f =>
    obtain ⟨reason, rfl⟩ := hi.ending r f rfl
    exact hchannel reason
  | _ => exact fun h => nomatch h

end System

/-- With notifications or without, the log has room for as many events as was asked for. -/
lemma Client.capacity_linkLog {s : HistorySettings} (h : 1 ≤ s.maxEvents.toNat) :
    (linkLog s).capacity = s.maxEvents.toNat := by
  unfold linkLog
  split_ifs <;> exact Nat.max_eq_left h

namespace Settings

/-- A document that leaves out what can be left out. -/
def sparse : String := "history.max_events = 7\n[control]\napi_url = \"HTTP:u@h?x\""

/-- Settings that were read from any document, or loaded from any files and variables, suffice: the
controller can be made, every request and every subscription has an address, no call of the service
and none for the channel fails for want of settings, and store and log have room for what was asked
for. -/
theorem sufficient (s : Settings) (h : (∃ document, parse document = .ok s) ∨
    ∃ sources deployment, load sources deployment = .ok s) :
    (∃ c, Controller.new s.control = .ok c ∧
      (∀ a d, ∃ u, Request.endpoint? c.base a d = some u) ∧
      ∀ slot ops,
        let x := (Controller.Session.new c slot).performAll ops
        (∀ f, .error f ∈ x.results → f.kind ≠ .configuration) ∧
        ∀ f ∈ x.controller.lastError, f.kind ≠ .configuration) ∧
    (∀ t k, ∃ u, Target.address s.channel t k = .ok u) ∧
    (∀ n credentials clock inputs, (∀ i ∈ inputs, i.IsGenuine) →
      let t := (System.new (.new s.channel n credentials) clock).run inputs
      ∀ f ∈ t.channel.lastError, f.kind ≠ .configuration) ∧
    (∀ clock, (Client.newSystem s clock).channel.store.capacity =
      s.history.maxDataPoints.toNat) ∧
    (Client.linkLog s.history).capacity = s.history.maxEvents.toNat := by
  have hcheck : s.check = .ok () := by
    rcases h with ⟨document, h⟩ | ⟨sources, deployment, h⟩
    · exact check_of_parse h
    · exact check_of_load h
  obtain ⟨hdata, hevents, ⟨u, hu⟩, ⟨v, path, hv, hpath⟩⟩ := usable_of_check hcheck
  have haddress : ∀ t k, ∃ u, Target.address s.channel t k = .ok u := by
    intro t k
    rw [Target.address, hu]
    exact ⟨_, rfl⟩
  refine ⟨⟨_, Controller.new_of_segments hv hpath, fun a d => ?_, fun slot ops => ?_⟩, haddress,
    fun n credentials clock inputs hi => ?_, fun clock => ?_, ?_⟩
  · exact ⟨_, Request.endpoint?_eq hpath a d⟩
  · have hnew :
        (Controller.Session.new ⟨v, s.control.timeoutMilliseconds, none⟩ slot).IsConfigured :=
      ⟨⟨path, hpath⟩, fun _ hf => absurd hf List.not_mem_nil, fun _ hf => nomatch hf⟩
    exact ⟨(hnew.performAll ops).results, (hnew.performAll ops).lastError⟩
  · intro t f hf
    rcases System.leaves_of_run _ inputs hf with h | ⟨before, i, after, rfl, hl⟩
    · cases h
    · refine System.kind_of_leaves ?_ (hi i (by simp)) hl
      rw [System.settings_run]
      exact haddress
  · exact Nat.max_eq_left hdata
  · exact Client.capacity_linkLog hevents

/-- An address without slashes, with a user and a query, is good enough. -/
theorem sufficient_sparse : ∃ s, parse sparse = .ok s ∧
    (∃ c, Controller.new s.control = .ok c ∧
      ∀ a d, ∃ u, Request.endpoint? c.base a d = some u) ∧
    (Client.linkLog s.history).capacity = 7 := by
  have hread : (parse sparse).toOption.map (·.history.maxEvents) = some 7 := by decide +kernel
  cases hs : parse sparse with
  | error f => simp [hs, Except.toOption] at hread
  | ok s =>
    have hevents : s.history.maxEvents = 7 := by simpa [hs, Except.toOption] using hread
    obtain ⟨⟨c, hc, hendpoint, -⟩, -, -, -, hlog⟩ := sufficient s (.inl ⟨_, hs⟩)
    refine ⟨s, rfl, ⟨c, hc, hendpoint⟩, hlog.trans ?_⟩
    rw [hevents]
    rfl

end Settings
end LiveTelemetry
