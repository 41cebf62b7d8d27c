import LiveTelemetry.Proofs.Channel.Secrecy
import LiveTelemetry.Proofs.Control.Calls
import LiveTelemetry.Proofs.Url.Form

/-!
A channel and a controller under two tokens. Main statement: whatever is done with the two and
whatever their peers answer, tokens make a difference to nothing but the token parameter of the
addresses that are dialled and the authorization of the requests that are sent, unless an address
becomes too long to be dialled.
-/
namespace LiveTelemetry

/-! ### Requests -/

lemma forall₂_toList {α : Type} {R : α → α → Prop} {a b : Option α} (h : Option.Rel R a b) :
    List.Forall₂ R a.toList b.toList := by
  cases h with
  | none => exact .nil
  | some hab => exact .cons hab .nil

/-- Requests that differ in the credential that they show. -/
inductive Request.Twin (r : Request) : Request → Prop
  | mk {front : List String} {k : Credential} (h : r.authorization = front ++ [k.bearer])
    (k' : Credential) : Twin r { r with authorization := front ++ [k'.bearer] }

namespace Controller

variable {c : Controller} {k k' : Credential}

/-- Two tokens fail to make a request for one reason, or they make requests that differ in them. -/
lemma build_twin (h : k.IsTwin k') (base : Url) (a : Action) (d : DeviceId) :
    (∃ f, Request.build base a d k = .error f ∧ Request.build base a d k' = .error f) ∨
      ∃ r r', Request.build base a d k = .ok r ∧ Request.build base a d k' = .ok r' ∧
        r.Twin r' := by
  have hheader : Http.isHeaderValue k'.bearer = Http.isHeaderValue k.bearer := Eq.symm h
  unfold Request.build
  cases Request.endpoint? base a d with
  | none => exact .inl ⟨_, rfl, rfl⟩
  | some u =>
    dsimp only
    rw [hheader]
    split_ifs
    · exact .inl ⟨_, rfl, rfl⟩
    · exact .inl ⟨_, rfl, rfl⟩
    · cases Dial.checkForm (Http.bare u) with
      | error e => exact .inl ⟨_, rfl, rfl⟩
      | ok _ => exact .inr ⟨_, _, rfl, rfl, .mk rfl k'⟩

/-- A call comes to the same with two tokens. -/
lemma attempt_twin {slot slot' : CredentialSlot}
    (h : Option.Rel Credential.IsTwin slot.held slot'.held) (x : Exchange) (a : Action)
    (d : DeviceId) :
    Option.Rel Request.Twin (c.attempt slot (fun _ => x) a d).1
        (c.attempt slot' (fun _ => x) a d).1 ∧
      (c.attempt slot' (fun _ => x) a d).2 = (c.attempt slot (fun _ => x) a d).2 := by
  have hsettle : ∀ {r r' : Request}, r.Twin r' → x.settle r' = x.settle r := by
    intro r r' h
    cases h
    cases x <;> rfl
  unfold attempt request
  split_ifs
  · exact ⟨.none, rfl⟩
  · generalize slot.held = held at h
    generalize slot'.held = held' at h
    cases h with
    | none => exact ⟨.none, rfl⟩
    | @some k k' hk =>
      dsimp only
      obtain ⟨f, hf, hf'⟩ | ⟨r, r', hr, hr', htwin⟩ := build_twin hk c.base a d
      · rw [hf, hf']
        exact ⟨.none, rfl⟩
      · rw [hr, hr']
        exact ⟨.some htwin, hsettle htwin⟩

namespace Session

/-- Sessions that differ in tokens only: in the one that is held, and in those of requests. -/
structure Twin (x x' : Session) : Prop where
  controller : x'.controller = x.controller
  results : x'.results = x.results
  held : Option.Rel Credential.IsTwin x.slot.held x'.slot.held
  sent : List.Forall₂ Request.Twin x.sent x'.sent

lemma Twin.credential {x x' : Session} (h : x.Twin x') {k k' : Option Credential}
    (hk : Option.Rel Credential.IsTwin k k') :
    (x.perform (.credential k)).Twin (x'.perform (.credential k')) :=
  ⟨h.controller, h.results, hk, h.sent⟩

lemma Twin.call {x x' : Session} (h : x.Twin x') (m : Command) :
    (x.perform (.call m)).Twin (x'.perform (.call m)) := by
  obtain ⟨hsent, hresult⟩ := attempt_twin (c := x.controller) h.held m.fate m.action m.device
  refine ⟨?_, ?_, h.held, ?_⟩
  · simp only [Session.perform, h.controller, hresult]
  · simp only [results_call, h.results, h.controller, hresult]
  · simp only [sent_call, h.controller]
    exact List.rel_append h.sent (forall₂_toList hsent)

end Session
end Controller

/-! ### A channel and a controller -/

/-- A channel and a controller that take their credentials from one slot. -/
structure Station where
  system : System
  session : Controller.Session
  /-- The addresses that were dialled, in their order. -/
  dialled : List Url

/-- What is done with a station, and what its peers answer. -/
inductive Event where
  | input (i : Input)
  | call (m : Controller.Command)

/-- Events that differ at most in the token that they put into the slot. -/
inductive Event.Twin : Event → Event → Prop
  | input {i i' : Input} (h : i.Twin i') : Twin (.input i) (.input i')
  | call (m : Controller.Command) : Twin (.call m) (.call m)

/-- Settings of tokens that are the same, or that have a token each. -/
inductive AuthSettings.Twin : AuthSettings → AuthSettings → Prop
  | same (s : AuthSettings) : Twin s s
  | tokens {k k' : Credential} (h : k.IsTwin k') : Twin ⟨some k.token⟩ ⟨some k'.token⟩

namespace Station

def new (settings : ChannelSettings) (n : Nat) (clock : Channel.Clock) (c : Controller)
    (auth : AuthSettings) : Station :=
  ⟨.new (.new settings n auth.credentialSlot) clock, .new c auth.credentialSlot, []⟩

def step (x : Station) : Event → Station
  | .input i =>
    { system := x.system.meet i
      session := match i with
        | .credential k => x.session.perform (.credential k)
        | _ => x.session
      dialled := x.dialled ++ (x.system.dial? i).toList }
  | .call m => { x with session := x.session.perform (.call m) }

def run (x : Station) (es : List Event) : Station := es.foldl step x

/-- If a handshake ends, its addresses are too long to be dialled in both stations or in neither. -/
def FitNow (x x' : Station) : Event → Prop
  | .input i => x.system.FitAlike x'.system i
  | .call _ => True

instance (x x' : Station) : DecidablePred (FitNow x x')
  | .input i => inferInstanceAs (Decidable (x.system.FitAlike x'.system i))
  | .call _ => inferInstanceAs (Decidable True)

/-- Whenever a handshake ends, its addresses are too long in both runs or in neither. -/
def FitAlike : Station → Station → List Event → List Event → Prop
  | x, x', e :: es, e' :: es' => FitNow x x' e ∧ FitAlike (x.step e) (x'.step e') es es'
  | _, _, _, _ => True

instance FitAlike.decidable : (x x' : Station) → (es es' : List Event) →
    Decidable (FitAlike x x' es es')
  | x, x', e :: es, e' :: es' =>
    have := decidable (x.step e) (x'.step e') es es'
    inferInstanceAs (Decidable (_ ∧ _))
  | _, _, [], _ => inferInstanceAs (Decidable True)
  | _, _, _ :: _, [] => inferInstanceAs (Decidable True)

/-- Stations that differ in tokens only. -/
structure Twin (settings : ChannelSettings) (x x' : Station) : Prop where
  configured : x.system.channel.settings = settings
  system : x.system.Twin x'.system
  session : x.session.Twin x'.session
  dialled : List.Forall₂ (fun u u' => ∃ t, Target.HasTwins settings t u u') x.dialled x'.dialled

variable {settings : ChannelSettings} {x x' : Station}

lemma settings_meet (s : System) (i : Input) :
    (s.meet i).channel.settings = s.channel.settings := by
  have hstep : ∀ i, (s.step i).channel.settings = s.channel.settings := fun i =>
    (s.move_step i).settings_eq
  cases i <;> exact hstep _

lemma Twin.step (h : Twin settings x x') {e e' : Event} (he : e.Twin e')
    (hfit : FitNow x x' e) : Twin settings (x.step e) (x'.step e') := by
  obtain ⟨hsettings, hsystem, hsession, hdialled⟩ := h
  cases he with
  | call m => exact ⟨hsettings, hsystem, hsession.call m, hdialled⟩
  | @input i i' hi =>
    refine ⟨(settings_meet _ _).trans hsettings, hsystem.meet hi hfit, ?_, ?_⟩
    · cases hi with
      | credential hk => exact hsession.credential hk
      | same hi =>
        cases i with
        | credential k => exact absurd rfl (hi k)
        | _ => exact hsession
    · obtain ⟨held, -, hcopy⟩ := hsystem
      rw [hsettings] at hcopy
      exact List.rel_append hdialled (forall₂_toList (hcopy.dial? hi))

lemma Twin.run (h : Twin settings x x') {es es' : List Event}
    (hes : List.Forall₂ Event.Twin es es') (hfit : FitAlike x x' es es') :
    Twin settings (x.run es) (x'.run es') := by
  induction hes generalizing x x' with
  | nil => exact h
  | cons he hes ih => exact ih (h.step he hfit.1) hfit.2

lemma credentialSlot_token (k : Credential) :
    (AuthSettings.mk (some k.token)).credentialSlot = ⟨some k⟩ := by
  simp [AuthSettings.credentialSlot, CredentialSlot.ofToken, Credential.ofToken?, k.notBlank]

lemma held_twin {auth auth' : AuthSettings} (h : auth.Twin auth') :
    Option.Rel Credential.IsTwin auth.credentialSlot.held auth'.credentialSlot.held := by
  cases h with
  | same =>
    cases auth.credentialSlot.held with
    | none => exact .none
    | some k => exact .some rfl
  | tokens h =>
    rw [credentialSlot_token, credentialSlot_token]
    exact .some h

lemma twin_new {auth auth' : AuthSettings} (h : auth.Twin auth') (settings : ChannelSettings)
    (n : Nat) (clock : Channel.Clock) (c : Controller) :
    Twin settings (new settings n clock c auth) (new settings n clock c auth') :=
  ⟨rfl, ⟨_, held_twin h, .mk .nil⟩, ⟨rfl, rfl, held_twin h, .nil⟩, .nil⟩

/-- What can be seen of two stations and of what went out of them. -/
structure Indistinct (settings : ChannelSettings) (x x' : Station) : Prop where
  /-- What calls for the channel have returned. -/
  opened : ∀ n, x'.system.result? n = x.system.result? n
  /-- What calls of the service have returned, and the error that is kept. -/
  called : x'.session.results = x.session.results ∧ x'.session.controller = x.session.controller
  /-- States, targets, errors, the store, the logs and the counters. -/
  channel : x'.system.channel =
    x.system.channel.setCredential x'.system.channel.credentials.held
  readers : x'.system.readers = x.system.readers
  clock : x'.system.clock = x.system.clock
  diagnostic : x'.system.channel.diagnostic = x.system.channel.diagnostic
  slot : x'.system.channel.credentials.diagnostic = x.system.channel.credentials.diagnostic ∧
    x'.session.slot.diagnostic = x.session.slot.diagnostic
  credential : x'.system.channel.credentials.held.map Credential.diagnostic =
    x.system.channel.credentials.held.map Credential.diagnostic
  /-- The requests that were sent differ in what they show of a credential only. -/
  sent : List.Forall₂ Request.Twin x.session.sent x'.session.sent
  /-- The addresses that were dialled are of the same targets, with one token each. -/
  dialled : List.Forall₂ (fun u u' => ∃ t, Target.HasTwins settings t u u') x.dialled x'.dialled

lemma Indistinct.lastError (h : Indistinct settings x x') :
    x'.system.channel.lastError = x.system.channel.lastError := by
  rw [h.channel]
  rfl

lemma Twin.indistinct (h : Twin settings x x') : Indistinct settings x x' := by
  obtain ⟨system', session', dialled'⟩ := x'
  obtain ⟨-, ⟨held, hheld, hcopy⟩, hsession, hdialled⟩ := h
  have hopened := hcopy.result?
  have hslot : ∀ {a b : CredentialSlot}, Option.Rel Credential.IsTwin a.held b.held →
      b.diagnostic = a.diagnostic ∧
        b.held.map Credential.diagnostic = a.held.map Credential.diagnostic := by
    rintro ⟨a⟩ ⟨b⟩ hab
    cases hab <;> exact ⟨rfl, rfl⟩
  obtain ⟨hdiagnostic, hcredential⟩ := @hslot _ ⟨held⟩ hheld
  cases hcopy with
  | mk hcalls =>
    exact {
      opened := hopened
      called := ⟨hsession.results, hsession.controller⟩
      channel := rfl
      readers := rfl
      clock := rfl
      diagnostic := rfl
      slot := ⟨hdiagnostic, (hslot hsession.held).1⟩
      credential := hcredential
      sent := hsession.sent
      dialled := hdialled }

/-- Two runs with the same settings, times, operations, frames and answers of peers, in which tokens
come and go at the same moments, cannot be told apart but by the token parameter of addresses and by
the authorization of requests, as long as whenever a handshake ends its addresses are too long to be
dialled in both runs or in neither. The texts of the settings do not tell the tokens either. -/
theorem secrecy_run (settings : ChannelSettings) (n : Nat) (clock : Channel.Clock) (c : Controller)
    (auth auth' : AuthSettings) (hauth : auth.Twin auth') (es es' : List Event)
    (hes : List.Forall₂ Event.Twin es es')
    (hfit : FitAlike (new settings n clock c auth) (new settings n clock c auth') es es') :
    auth'.diagnostic = auth.diagnostic ∧
    Indistinct settings ((new settings n clock c auth).run es)
      ((new settings n clock c auth').run es') := by
  refine ⟨?_, ((twin_new hauth settings n clock c).run hes hfit).indistinct⟩
  cases hauth <;> rfl

end Station

/-! ### Tokens that are too long -/

namespace Url

lemma length_le_flatMap {α β : Type} {f : α → List β} (h : ∀ a, f a ≠ []) (xs : List α) :
    xs.length ≤ (xs.flatMap f).length := by
  induction xs with
  | nil => exact Nat.le_refl _
  | cons x xs ih =>
    have hx : 0 < (f x).length := List.length_pos_iff.2 (h x)
    rw [List.flatMap_cons, List.length_append, List.length_cons]
    omega

lemma utf8EncodeChar_ne_nil (c : Char) : String.utf8EncodeChar c ≠ [] := by
  rw [← List.length_pos_iff, String.length_utf8EncodeChar]
  exact c.utf8Size_pos

lemma length_le_utf8ByteSize (s : String) : s.toList.length ≤ s.utf8ByteSize := by
  rw [← Text.Utf8.length_encode]
  exact length_le_flatMap utf8EncodeChar_ne_nil _

/-- Encoding makes nothing shorter. -/
lemma length_le_formEncode (s : String) : s.toList.length ≤ (formEncode s).length := by
  refine length_le_flatMap (fun c => ?_) _
  unfold formChar
  split_ifs
  · simp
  · simp
  · obtain ⟨b, bs, hb⟩ := List.exists_cons_of_ne_nil (utf8EncodeChar_ne_nil c)
    simp [percentChar, hb, percentOctet]

lemma length_formPair_le {p : String × String} {ps : List (String × String)} (h : p ∈ ps) :
    (formPair p).length ≤ (formText ps).toList.length := by
  induction ps with
  | nil => cases h
  | cons q ps ih =>
    cases ps with
    | nil =>
      obtain rfl := List.mem_singleton.1 h
      simp [formText]
    | cons r ps =>
      rw [formText_cons_cons, List.length_append, List.length_cons]
      rcases List.mem_cons.1 h with rfl | h
      · exact Nat.le_add_right _ _
      · have hr := ih h
        omega

lemma utf8ByteSize_query_le (v : Url) (q : String) :
    q.utf8ByteSize ≤ (render { v with query := some q }).utf8ByteSize := by
  simp only [render, requestText, String.utf8ByteSize_append]
  omega

end Url

/-- No address is dialled whose token alone is longer than addresses may be. -/
lemma Target.not_fits_of_long {settings : ChannelSettings} {t : Target} {k : Credential} {u : Url}
    (hu : t.address settings k = .ok u) (hk : Dial.lengthLimit < k.token.toList.length) :
    ¬Dial.Fits u := by
  have hform : k.token.toList.length ≤ (Url.formText (t.parameters k)).toList.length := by
    have hpair : ("token", k.token) ∈ t.parameters k := by simp [parameters]
    calc k.token.toList.length
        ≤ (Url.formEncode k.token).length := Url.length_le_formEncode _
      _ ≤ (Url.formPair ("token", k.token)).length := by
        simp only [Url.formPair, List.length_append, List.length_cons]
        omega
      _ ≤ (Url.formText (t.parameters k)).toList.length := Url.length_formPair_le hpair
  unfold address at hu
  split at hu
  · cases hu
  · next v hv =>
    have hquery : ∃ q : String, u = { v with query := some q } ∧
        (Url.formText (t.parameters k)).toList.length ≤ q.toList.length := by
      refine ⟨_, (Except.ok.inj hu).symm, ?_⟩
      split_ifs
      · exact Nat.le_refl _
      · simp only [String.toList_append, List.length_append]
        exact Nat.le_add_left _ _
    obtain ⟨q, rfl, hq⟩ := hquery
    have hsize : q.toList.length ≤ (Url.render { v with query := some q }).utf8ByteSize :=
      Nat.le_trans (Url.length_le_utf8ByteSize q) (Url.utf8ByteSize_query_le v q)
    unfold Dial.Fits
    omega

lemma Dial.check_of_not_fits {u : Url} (h : ¬Fits u) : check u = .error .tooLong := by
  have hform : checkForm u = .error .tooLong := by
    rw [checkForm, if_pos (Nat.lt_of_not_le h)]
  rw [check, hform]

/-- A token of one letter. -/
def Credential.brief : Credential := ⟨"t", rfl⟩

lemma isBlank_letters {n : Nat} (h : 0 < n) : Text.isBlank (Controller.letters n) = false := by
  have ha : 'a' ∈ (Controller.letters n).toList := by
    rw [Controller.letters, String.toList_ofList, List.mem_replicate]
    exact ⟨Nat.ne_of_gt h, rfl⟩
  exact Text.isBlank_eq_false_of_mem ha (by decide)

lemma length_letters (n : Nat) : (Controller.letters n).toList.length = n := by
  rw [Controller.letters, String.toList_ofList, List.length_replicate]

/-- A token of more letters than an address can have. -/
def Credential.overlong : Credential := ⟨Controller.letters 65535, isBlank_letters (by decide)⟩

lemma isHeaderValue_overlong : Http.isHeaderValue Credential.overlong.bearer = true := by
  have hletters : (Controller.letters 65535).toList = List.replicate 65535 'a' :=
    String.toList_ofList
  have hfront : Http.isHeaderValue "Bearer " = true := by decide
  unfold Http.isHeaderValue at hfront ⊢
  rw [Credential.bearer, String.toList_append, List.all_append, hfront, Bool.true_and,
    Credential.overlong, hletters, List.all_replicate]
  rfl

namespace Station

/-- A call for the channel whose handshake ends at once. -/
def attempt (t : Target) (o : Outcome) : List Event :=
  (Input.connect t.device t.vendor :: System.settling 0 ++ [Input.outcome 0 o]).map .input

lemma run_append (x : Station) (es fs : List Event) : x.run (es ++ fs) = (x.run es).run fs :=
  List.foldl_append

/-- Nothing is dialled but where handshakes end. -/
lemma system_run (x : Station) {is : List Input} (h : ∀ i ∈ is, ∀ n o, i ≠ .outcome n o) :
    (x.run (is.map .input)).system = x.system.run is := by
  induction is generalizing x with
  | nil => rfl
  | cons i is ih =>
    have hmeet : x.system.meet i = x.system.step i := by
      cases i with
      | outcome n o => exact absurd rfl (h _ List.mem_cons_self n o)
      | _ => rfl
    rw [List.map_cons, run, List.foldl_cons, ← run,
      ih _ fun i hi => h i (List.mem_cons_of_mem _ hi)]
    simp only [step, hmeet]
    rfl

/-- The first call leaves the error of its handshake behind. -/
lemma lastError_attempt {settings : ChannelSettings} {t : Target} {k : Credential} {u : Url}
    (hdevice : t.device.isBlank = false) (ht : .ofRequest settings t.device t.vendor = t)
    (hu : t.address settings k = .ok u) {f e : Failure}
    (he : Dial.outcome u (.failed f) = .failed e) (n : Nat) (clock : Channel.Clock)
    (c : Controller) :
    ((new settings n clock c ⟨some k.token⟩).run (attempt t (.failed f))).system.channel.lastError =
      some e := by
  let x := new settings n clock c ⟨some k.token⟩
  have hheld : x.system.channel.credentials.held = some k :=
    congrArg CredentialSlot.held (credentialSlot_token k)
  have hclosed : x.system.channel.state = .disconnected := rfl
  have haccepts : x.system.channel.Accepts t u :=
    ⟨hdevice, rfl, fun h => absurd (hclosed.symm.trans h.1) (by decide), rfl, k, hheld, hu⟩
  have hbegun : x.system.run (.connect t.device t.vendor :: System.settling 0) =
      { x.system with
        channel := x.system.channel.begin t
        calls := [⟨t, .opening 1 u (clock.now + settings.timeoutMilliseconds), none⟩] } := by
    have hconnect : x.system.step (.connect t.device t.vendor) = x.system.enter t none := by
      conv_rhs => rw [← ht]
      rfl
    rw [System.run, List.foldl_cons, hconnect]
    exact System.settleCall_enter_of_accepts haccepts none
  have hinputs : ∀ i ∈ Input.connect t.device t.vendor :: System.settling 0, ∀ n o,
      i ≠ .outcome n o := by
    intro i hi n o h
    rcases List.mem_cons.1 hi with rfl | hi
    · cases h
    · cases (List.eq_of_mem_replicate hi).symm.trans h
  have hrun := (x.system_run hinputs).trans hbegun
  have hstep : (x.run (attempt t (.failed f))).system =
      (x.run ((Input.connect t.device t.vendor :: System.settling 0).map .input)).system.meet
        (.outcome 0 (.failed f)) := by
    rw [attempt, List.map_append, run_append]
    generalize x.run ((Input.connect t.device t.vendor :: System.settling 0).map .input) = y
    rfl
  rw [hstep, hrun]
  change (System.conclude 0 (Dial.outcome u (.failed f)) _).channel.lastError = _
  rw [he]
  have hclock : x.system.clock.now ≤ clock.now + settings.timeoutMilliseconds :=
    Nat.le_add_right _ _
  simp only [System.conclude, List.getElem?_cons_zero, Channel.timely_of_le hclock]
  rfl

/-- A call that opens the channel, and one that starts the collection with a newer token. -/
def refreshed (k : Credential) : List Event :=
  attempt ⟨⟨"r1"⟩, "v"⟩ .opened ++
    [.input (.proceed 0), .input (.credential (some k)),
      .call ⟨.start, ⟨"r1"⟩, true, .answered 204 []⟩]

lemma refreshed_twin {k k' : Credential} (h : k.IsTwin k') :
    List.Forall₂ Event.Twin (refreshed k) (refreshed k') := by
  refine List.rel_append (List.forall₂_same.2 fun e he => ?_)
    (.cons (.input (.same fun _ => nofun)) (.cons (.input (.credential (.some h)))
      (.cons (.call _) .nil)))
  obtain ⟨i, hi, rfl⟩ := List.mem_map.1 he
  have hinput : ∀ i ∈ Input.connect ⟨"r1"⟩ "v" :: System.settling 0 ++ [Input.outcome 0 .opened],
      ∀ k, i ≠ .credential k := by
    simp [System.settling]
  exact .input (.same (hinput i hi))

/-- The tokens are of different lengths, and one of them goes beyond ASCII. -/
theorem secrecy_refreshed : ∃ c, Controller.new .standard = .ok c ∧
    let x := new {} 50 ⟨0, "now"⟩ c ⟨some "t"⟩
    let x' := new {} 50 ⟨0, "now"⟩ c ⟨some "geheim é"⟩
    FitAlike x x' (refreshed ⟨"t2", rfl⟩) (refreshed ⟨"noch geheimer", rfl⟩) ∧
    Indistinct {} (x.run (refreshed ⟨"t2", rfl⟩)) (x'.run (refreshed ⟨"noch geheimer", rfl⟩)) ∧
    (x'.run (refreshed ⟨"noch geheimer", rfl⟩)).system.result? 0 = some true := by
  refine ⟨⟨⟨"http", "", none, some "localhost", some 8000, .segments ["api"], none, none⟩, 15000,
    none⟩, rfl, ?_⟩
  intro x x'
  have hfit : FitAlike x x' (refreshed ⟨"t2", rfl⟩) (refreshed ⟨"noch geheimer", rfl⟩) := by
    decide +kernel
  have hauth : AuthSettings.Twin ⟨some "t"⟩ ⟨some "geheim é"⟩ :=
    @AuthSettings.Twin.tokens ⟨"t", rfl⟩ ⟨"geheim é", rfl⟩ (by decide)
  obtain ⟨-, hindistinct⟩ := secrecy_run {} 50 ⟨0, "now"⟩ _ _ _ hauth _ _
    (refreshed_twin (by decide)) hfit
  refine ⟨hfit, hindistinct, ?_⟩
  rw [hindistinct.opened]
  decide +kernel

/-- The first call for the channel, on a network that reaches nobody. -/
def firstCall (c : Controller) (k : Credential) : Station :=
  (new {} 50 ⟨0, "now"⟩ c ⟨some k.token⟩).run
    (attempt ⟨⟨"r1"⟩, "v"⟩ (.failed (.ofChannel Offline.noNetwork)))

lemma lastError_firstCall (c : Controller) (k : Credential) : ∃ v : Url,
    Target.address {} ⟨⟨"r1"⟩, "v"⟩ k = .ok v ∧
    ∀ e, Offline.dial v = .failed e → (firstCall c k).system.channel.lastError = some e := by
  obtain ⟨v, hv⟩ : ∃ v, Url.parse ({} : ChannelSettings).url = .ok v := ⟨_, rfl⟩
  have haddress : Target.address {} ⟨⟨"r1"⟩, "v"⟩ k =
      .ok (v.addPairs (Target.parameters ⟨⟨"r1"⟩, "v"⟩ k)) := by
    rw [Target.address, hv]
  have hdevice : DeviceId.isBlank ⟨"r1"⟩ = false := by decide
  have htarget : Target.ofRequest {} ⟨"r1"⟩ "v" = ⟨⟨"r1"⟩, "v"⟩ := by decide
  refine ⟨_, haddress, fun e he => ?_⟩
  rw [Dial.offline_dial] at he
  unfold firstCall
  exact lastError_attempt hdevice htarget haddress he 50 ⟨0, "now"⟩ c

lemma lastError_of_long (c : Controller) {k : Credential}
    (hk : Dial.lengthLimit < k.token.toList.length) :
    (firstCall c k).system.channel.lastError =
      some (.ofChannel "HTTP format error: uri too long") := by
  obtain ⟨v, hv, hlast⟩ := lastError_firstCall c k
  apply hlast
  rw [Offline.dial, Dial.check_of_not_fits (Target.not_fits_of_long hv hk)]
  rfl

lemma lastError_brief (c : Controller) :
    (firstCall c .brief).system.channel.lastError = some (.ofChannel Offline.noNetwork) := by
  obtain ⟨v, hv, hlast⟩ := lastError_firstCall c .brief
  have hcheck : (Target.address {} ⟨⟨"r1"⟩, "v"⟩ .brief).toOption.map
      (fun v => (Dial.check v).toOption) = some (some ()) := by decide +kernel
  rw [hv] at hcheck
  apply hlast
  unfold Offline.dial
  cases hd : Dial.check v with
  | ok _ => rfl
  | error r => simp [hd, Except.toOption] at hcheck

/-- Of two tokens that a header can hold, one makes the address of a call too long. The call fails
of it, and not of what the network has made of the other one. -/
theorem secrecy_overlong : ∃ c, Controller.new .standard = .ok c ∧
    Http.isHeaderValue Credential.brief.bearer = true ∧
    Http.isHeaderValue Credential.overlong.bearer = true ∧
    (firstCall c .brief).system.channel.lastError = some (.ofChannel Offline.noNetwork) ∧
    (firstCall c .overlong).system.channel.lastError =
      some (.ofChannel "HTTP format error: uri too long") ∧
    ¬Indistinct {} (firstCall c .brief) (firstCall c .overlong) := by
  have hdiffer : ∀ c k, Dial.lengthLimit < k.token.toList.length →
      ¬Indistinct {} (firstCall c .brief) (firstCall c k) := by
    intro c k hk h
    have hsame := h.lastError
    rw [lastError_brief, lastError_of_long c hk] at hsame
    exact absurd hsame (by decide)
  have hlong : Dial.lengthLimit < Credential.overlong.token.toList.length :=
    Nat.lt_of_lt_of_eq (by decide) (length_letters 65535).symm
  obtain ⟨c, hc⟩ : ∃ c, Controller.new .standard = .ok c := ⟨_, rfl⟩
  refine ⟨c, hc, by decide, isHeaderValue_overlong, lastError_brief c, ?_, ?_⟩
  · exact lastError_of_long c hlong
  · exact hdiffer c .overlong hlong

end Station
end LiveTelemetry
