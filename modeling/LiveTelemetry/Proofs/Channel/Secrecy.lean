import LiveTelemetry.Client.Offline
import LiveTelemetry.Proofs.Channel.Attainable
import LiveTelemetry.Proofs.Channel.FirstCall
import LiveTelemetry.Proofs.Channel.Rejection
import Mathlib.Data.List.Forall2

/-!
A channel under two tokens. Main statement: of two channels that differ in their tokens only, each
step makes two that differ in their tokens only, as long as a handshake has an address that is too
long for both of them or for neither.
-/
namespace LiveTelemetry

/-! ### Addresses -/

namespace Dial

/-- An address is not too long to be dialled. -/
def Fits (u : Url) : Prop := u.render.utf8ByteSize ≤ lengthLimit

instance (u : Url) : Decidable (Fits u) := inferInstanceAs (Decidable (_ ≤ _))

/-- What comes of a handshake that the peer would end in some way. An address that cannot be dialled
is refused before the peer counts. -/
def outcome (u : Url) (o : Outcome) : Outcome :=
  match check u with
  | .error r => .failed (.ofChannel r.message)
  | .ok () => o

/-- Without a network this is what a peer out of reach makes of it. -/
lemma offline_dial (u : Url) : Offline.dial u =
    outcome u (.failed (.ofChannel Offline.noNetwork)) := rfl

variable {v : Url} {q q' : String}

/-- The query of an address lies behind its authority. -/
lemma authority_query (v : Url) (q q' : String) :
    authority { v with query := some q } = authority { v with query := some q' } := by
  have htext : ∀ q : String, (Url.requestText { v with query := some q }).toList =
      (v.scheme ++ ":" ++ v.authorityText ++ v.pathText).toList ++ '?' :: q.toList := by
    intro q
    simp only [Url.requestText, String.toList_append, List.append_assoc]
    rfl
  have hmark : ∀ q : String, ('?' :: q.toList).takeWhile (fun c => !endsAuthority c) = [] :=
    fun _ => rfl
  obtain ⟨scheme, username, password, host, port, path, query, fragment⟩ := v
  cases host with
  | some h => rfl
  | none => simp only [authority, htext, List.takeWhile_append, hmark]

/-- Of addresses that differ in their queries only, both can be dialled or none, for one reason,
unless their lengths make a difference. -/
lemma outcome_query (h : Fits { v with query := some q } ↔ Fits { v with query := some q' })
    (o : Outcome) :
    outcome { v with query := some q } o = outcome { v with query := some q' } o := by
  have hform : checkForm { v with query := some q } = checkForm { v with query := some q' } := by
    have hlength : lengthLimit < (Url.render { v with query := some q }).utf8ByteSize ↔
        lengthLimit < (Url.render { v with query := some q' }).utf8ByteSize := by
      rw [← Nat.not_le, ← Nat.not_le]
      exact not_congr h
    simp only [checkForm, hlength, authority_query v q q']
  have hcheck : check { v with query := some q } = check { v with query := some q' } := by
    simp only [check, hform, port?]
  simp only [outcome, hcheck]

end Dial

/-! ### What tokens make a difference to -/

/-- Tokens that a header can hold, or that no header can. -/
def Credential.IsTwin (k k' : Credential) : Prop :=
  Http.isHeaderValue k.bearer = Http.isHeaderValue k'.bearer

instance (k k' : Credential) : Decidable (k.IsTwin k') := inferInstanceAs (Decidable (_ = _))

/-- The addresses of one subscription, each with a token of its own. -/
def Target.HasTwins (settings : ChannelSettings) (t : Target) (u u' : Url) : Prop :=
  ∃ k k', t.address settings k = .ok u ∧ t.address settings k' = .ok u'

/-- A call for a target is at the same point, with addresses that differ in their tokens. -/
inductive Phase.Twin (settings : ChannelSettings) (t : Target) : Phase → Phase → Prop
  | entered : Twin settings t .entered .entered
  | checked : Twin settings t .checked .checked
  | claimed : Twin settings t .claimed .claimed
  | prepared {u u' : Url} (h : t.HasTwins settings u u') :
    Twin settings t (.prepared u) (.prepared u')
  | opening (g d : Nat) {u u' : Url} (h : t.HasTwins settings u u') :
    Twin settings t (.opening g u d) (.opening g u' d)
  | settled (r : Option Bool) : Twin settings t (.settled r) (.settled r)
  | finished (r : Option Bool) : Twin settings t (.finished r) (.finished r)

/-- Calls that differ in the tokens of their addresses. -/
inductive Call.Twin (settings : ChannelSettings) (k : Call) : Call → Prop
  | mk {p : Phase} (h : Phase.Twin settings k.target k.phase p) :
    Twin settings k { k with phase := p }

/-- Inputs that differ at most in the token that they put into the slot. -/
inductive Input.Twin : Input → Input → Prop
  | same {i : Input} (hi : ∀ k, i ≠ .credential k) : Twin i i
  | credential {k k' : Option Credential} (h : Option.Rel Credential.IsTwin k k') :
    Twin (.credential k) (.credential k')

/-- A system that is the same but for the credential that is held and the addresses of calls. -/
inductive System.Copy (settings : ChannelSettings) (held : Option Credential) (s : System) :
    System → Prop
  | mk {calls : List Call} (h : List.Forall₂ (Call.Twin settings) s.calls calls) :
    Copy settings held s { s with channel := s.channel.setCredential held, calls }

/-- Systems that differ in tokens only: in the one that is held, and in those of addresses. -/
def System.Twin (s s' : System) : Prop :=
  ∃ held, Option.Rel Credential.IsTwin s.channel.credentials.held held ∧
    s.Copy s.channel.settings held s'

lemma Target.outcome_eq {settings : ChannelSettings} {t : Target} {u u' : Url}
    (h : t.HasTwins settings u u') (hf : Dial.Fits u ↔ Dial.Fits u') (o : Outcome) :
    Dial.outcome u o = Dial.outcome u' o := by
  obtain ⟨k, k', hu, hu'⟩ := h
  unfold address at hu hu'
  cases hv : Url.parse settings.url with
  | error f => simp [hv] at hu
  | ok v =>
    simp only [hv, Except.ok.injEq] at hu hu'
    subst hu hu'
    exact Dial.outcome_query hf o

namespace Channel

variable (held : Option Credential) (c : Channel)

/-! ### Steps that no token makes a difference to -/

lemma check_setCredential (t : Target) :
    (c.setCredential held).check t = ((c.check t).1.setCredential held, (c.check t).2) := by
  unfold check setCredential
  dsimp only
  split_ifs <;> rfl

lemma claim_setCredential :
    (c.setCredential held).claim = (c.claim.1.setCredential held, c.claim.2) := by
  unfold claim setCredential
  split_ifs <;> rfl

lemma settle_setCredential (g : Nat) (o : Outcome) :
    (c.setCredential held).settle g o =
      ((c.settle g o).1.setCredential held, (c.settle g o).2) := by
  cases o with
  | opened =>
    unfold settle setCredential isCurrent
    dsimp only
    split_ifs <;> rfl
  | failed f =>
    unfold settle setCredential
    dsimp only

lemma abandon_setCredential (g : Nat) :
    (c.setCredential held).abandon g = ((c.abandon g).1.setCredential held, (c.abandon g).2) := by
  unfold abandon setCredential isCurrent
  split_ifs <;> rfl

lemma route_setCredential (clock : Clock) (raw : String) :
    (c.setCredential held).route clock raw = (c.route clock raw).setCredential held := by
  unfold route
  dsimp only
  split <;> rfl

lemma deliver_setCredential (clock : Clock) (g : Nat) (f : Frame) :
    (c.setCredential held).deliver clock g f =
      ((c.deliver clock g f).1.setCredential held, (c.deliver clock g f).2) := by
  have hcurrent : (c.setCredential held).isCurrent g = c.isCurrent g := rfl
  unfold deliver
  rw [hcurrent]
  simp only [route_setCredential]
  cases f with
  | idle => rfl
  | text raw =>
    dsimp only
    split_ifs <;> rfl
  | binary octets =>
    dsimp only
    split_ifs
    · split <;> rfl
    · rfl

lemma schedule_setCredential (now g : Nat) :
    (c.setCredential held).schedule now g = (c.schedule now g).setCredential held := by
  unfold schedule setCredential
  dsimp only
  split <;> rfl

lemma finish_setCredential (now g : Nat) (e : Ending) :
    (c.setCredential held).finish now g e = (c.finish now g e).setCredential held := by
  simp only [finish, apply_ite (setCredential held), ← schedule_setCredential]
  rfl

lemma wake_setCredential (t : Timer) :
    (c.setCredential held).wake t = ((c.wake t).1.setCredential held, (c.wake t).2) := by
  unfold wake setCredential isCurrent
  split_ifs <;> rfl

lemma shut_setCredential : (c.setCredential held).shut = c.shut.setCredential held := by
  unfold shut setCredential
  split_ifs <;> rfl

lemma shutdown_setCredential :
    (c.setCredential held).shutdown = c.shutdown.setCredential held := by
  unfold shutdown
  rw [shut_setCredential]
  unfold setCredential
  split_ifs <;> rfl

variable {held c} {t : Target}

/-- What a token makes a difference to is the address that is prepared with it. -/
lemma prepare_twin (hheld : Option.Rel Credential.IsTwin c.credentials.held held) :
    ∃ p, (c.setCredential held).prepare t = ((c.prepare t).1.setCredential held, p) ∧
      Phase.Twin c.settings t (c.prepare t).2 p := by
  cases hk : c.credentials.held with
  | none =>
    rw [hk] at hheld
    cases hheld
    refine ⟨.settled (some false), ?_, ?_⟩
    · simp only [prepare, hk]
      rfl
    · simp only [prepare, hk]
      exact .settled _
  | some k =>
    rw [hk] at hheld
    obtain ⟨k', rfl⟩ : ∃ k', held = some k' := by
      cases hheld
      exact ⟨_, rfl⟩
    cases hu : Url.parse c.settings.url with
    | error f =>
      have hnone : ∀ k, t.address c.settings k =
          .error (.configuration ("Invalid channel URL: " ++ f.message)) := by
        intro k
        simp only [Target.address, hu]
      refine ⟨.settled (some false), ?_, ?_⟩
      · simp only [prepare, hk, hnone, setCredential]
        rfl
      · simp only [prepare, hk, hnone]
        exact .settled _
    | ok v =>
      have hsome : ∀ k, t.address c.settings k = .ok (v.addPairs (t.parameters k)) := by
        intro k
        simp only [Target.address, hu]
      refine ⟨.prepared (v.addPairs (t.parameters k')), ?_, ?_⟩
      · simp only [prepare, hk, hsome, setCredential]
      · simp only [prepare, hk, hsome]
        exact .prepared ⟨k, k', hsome k, hsome k'⟩

/-- A step of a call makes no difference between tokens but that of the address. -/
lemma proceed_twin (hheld : Option.Rel Credential.IsTwin c.credentials.held held) (now : Nat)
    {p p' : Phase} (h : Phase.Twin c.settings t p p') :
    ∃ q, (c.setCredential held).proceed now t p' = ((c.proceed now t p).1.setCredential held, q) ∧
      Phase.Twin c.settings t (c.proceed now t p).2 q := by
  cases h with
  | entered =>
    refine ⟨_, check_setCredential held c t, ?_⟩
    simp only [proceed, check]
    split_ifs
    · exact .finished _
    · exact .finished _
    · exact .finished _
    · exact .checked
  | checked =>
    refine ⟨_, claim_setCredential held c, ?_⟩
    simp only [proceed, claim]
    split_ifs
    · exact .finished _
    · exact .claimed
  | claimed => exact prepare_twin hheld
  | @prepared u u' h =>
    have hshut : (c.setCredential held).shutDown = c.shutDown := rfl
    rw [proceed, proceed, start, start, hshut]
    split_ifs
    · exact ⟨_, rfl, .settled _⟩
    · exact ⟨_, rfl, .opening _ _ h⟩
  | opening g d h => exact ⟨_, rfl, .opening g d h⟩
  | settled r => exact ⟨_, rfl, .finished r⟩
  | finished r => exact ⟨_, rfl, .finished r⟩

end Channel

/-! ### Calls -/

namespace Call

variable {settings : ChannelSettings} {ks ks' : List Call}

lemma twin_getElem? (h : List.Forall₂ (Twin settings) ks ks') (n : Nat) :
    ks[n]? = none ∧ ks'[n]? = none ∨
      ∃ k p, ks[n]? = some k ∧ ks'[n]? = some { k with phase := p } ∧
        Phase.Twin settings k.target k.phase p := by
  induction h generalizing n with
  | nil => exact .inl ⟨rfl, rfl⟩
  | @cons k k' ks ks' hk hks ih =>
    cases n with
    | zero =>
      cases hk with
      | mk hp => exact .inr ⟨k, _, rfl, rfl, hp⟩
    | succ n => exact ih n

lemma twin_modify (h : List.Forall₂ (Twin settings) ks ks') {n : Nat} {k : Call}
    (hk : ks[n]? = some k) {p p' : Phase} (hp : Phase.Twin settings k.target p p') :
    List.Forall₂ (Twin settings) (ks.modify n fun k => { k with phase := p })
      (ks'.modify n fun k => { k with phase := p' }) := by
  induction h generalizing n with
  | nil => cases hk
  | @cons j j' ks ks' hj hks ih =>
    cases n with
    | zero =>
      cases hk
      cases hj with
      | mk => exact .cons (.mk hp) hks
    | succ n => exact .cons hj (ih hk)

end Call

/-! ### Steps of a system -/

namespace System

variable {s s' : System} {settings : ChannelSettings} {held : Option Credential}

/-- A handshake that ends in one way ends for both. -/
lemma Copy.conclude (h : s.Copy s.channel.settings held s') (n : Nat) (o : Outcome) :
    (s.conclude n o).Copy s.channel.settings held (s'.conclude n o) := by
  obtain @⟨calls, hcalls⟩ := h
  rcases Call.twin_getElem? hcalls n with ⟨hn, hn'⟩ | ⟨⟨t, q, x⟩, p, hk, hk', hp⟩
  · simp only [System.conclude, hn, hn']
    exact .mk hcalls
  · cases hp with
    | opening g d h =>
      obtain ⟨-, r, hr⟩ := Channel.concludes_settle g
        (Channel.timely s.clock.now d o s.channel.settings) s.channel
      have hsettings : (s.channel.setCredential held).settings = s.channel.settings := rfl
      simp only [System.conclude, hk, hk', hsettings, Channel.settle_setCredential, hr]
      exact .mk (Call.twin_modify hcalls hk (.settled r))
    | _ =>
      simp only [System.conclude, hk, hk']
      exact .mk hcalls

lemma Copy.proceed (hheld : Option.Rel Credential.IsTwin s.channel.credentials.held held)
    (h : s.Copy s.channel.settings held s') (n : Nat) :
    (s.proceed n).Copy s.channel.settings held (s'.proceed n) := by
  obtain @⟨calls, hcalls⟩ := h
  rcases Call.twin_getElem? hcalls n with ⟨hn, hn'⟩ | ⟨k, p, hk, hk', hp⟩
  · simp only [System.proceed, hn, hn']
    exact .mk hcalls
  · obtain ⟨q, hq, htwin⟩ := Channel.proceed_twin hheld s.clock.now hp
    simp only [System.proceed, hk, hk', hq]
    exact .mk (Call.twin_modify hcalls hk htwin)

lemma Copy.abandon (h : s.Copy s.channel.settings held s') (n : Nat) :
    (s.abandon n).Copy s.channel.settings held (s'.abandon n) := by
  obtain @⟨calls, hcalls⟩ := h
  rcases Call.twin_getElem? hcalls n with ⟨hn, hn'⟩ | ⟨⟨t, q, x⟩, p, hk, hk', hp⟩
  · simp only [System.abandon, hn, hn']
    exact .mk hcalls
  · cases hp with
    | opening g d h =>
      obtain ⟨-, r, hr⟩ := Channel.concludes_abandon g s.channel
      simp only [System.abandon, hk, hk', Channel.abandon_setCredential, hr]
      exact .mk (Call.twin_modify hcalls hk (.settled r))
    | entered =>
      simp only [System.abandon, hk, hk']
      exact .mk (Call.twin_modify hcalls hk (.finished none))
    | _ =>
      simp only [System.abandon, hk, hk']
      exact .mk hcalls

lemma Copy.expire (h : s.Copy s.channel.settings held s') (n : Nat) :
    (s.expire n).Copy s.channel.settings held (s'.expire n) := by
  have hconclude := h.conclude n
  obtain @⟨calls, hcalls⟩ := h
  rcases Call.twin_getElem? hcalls n with ⟨hn, hn'⟩ | ⟨⟨t, q, x⟩, p, hk, hk', hp⟩
  · simp only [System.expire, hn, hn']
    exact .mk hcalls
  · cases hp with
    | opening g d h =>
      simp only [System.expire, hk, hk']
      split_ifs
      · exact hconclude _
      · exact .mk hcalls
    | _ =>
      simp only [System.expire, hk, hk']
      exact .mk hcalls

lemma Copy.wake (h : s.Copy settings held s') (i : Nat) :
    (s.wake i).Copy settings held (s'.wake i) := by
  obtain @⟨calls, hcalls⟩ := h
  unfold System.wake
  dsimp only
  cases s.woken[i]? with
  | none => exact .mk hcalls
  | some t =>
    simp only [Channel.wake_setCredential]
    cases (s.channel.wake t).2 with
    | none => exact .mk hcalls
    | some target => exact .mk (List.rel_append hcalls (.cons (.mk .entered) .nil))

lemma Copy.frame (h : s.Copy settings held s') (r : Nat) (f : Frame) :
    (s.frame r f).Copy settings held (s'.frame r f) := by
  obtain @⟨calls, hcalls⟩ := h
  unfold System.frame
  dsimp only
  cases s.readers[r]? with
  | none => exact .mk hcalls
  | some g =>
    simp only [Channel.deliver_setCredential]
    exact .mk hcalls

lemma Copy.ending (h : s.Copy settings held s') (r : Nat) (e : Ending) :
    (s.ending r e).Copy settings held (s'.ending r e) := by
  obtain @⟨calls, hcalls⟩ := h
  unfold System.ending
  dsimp only
  cases s.readers[r]? with
  | none => exact .mk hcalls
  | some g =>
    simp only [Channel.finish_setCredential]
    exact .mk hcalls

lemma Copy.stop (h : s.Copy settings held s') (r : Nat) :
    (s.stop r).Copy settings held (s'.stop r) := by
  obtain @⟨calls, hcalls⟩ := h
  have hreader : (s.channel.setCredential held).reader = s.channel.reader := rfl
  unfold System.stop
  dsimp only
  cases s.readers[r]? with
  | none => exact .mk hcalls
  | some g =>
    simp only [hreader]
    split_ifs
    · exact .mk hcalls
    · exact .mk hcalls

/-- A step but for a change of the slot makes no difference between tokens. -/
lemma Copy.step (hheld : Option.Rel Credential.IsTwin s.channel.credentials.held held)
    (h : s.Copy s.channel.settings held s') {i : Input} (hi : ∀ k, i ≠ .credential k) :
    (s.step i).Copy s.channel.settings held (s'.step i) := by
  cases i with
  | credential k => exact absurd rfl (hi k)
  | proceed n => exact h.proceed hheld n
  | outcome n o => exact h.conclude n o
  | expire n => exact h.expire n
  | abandon n => exact h.abandon n
  | wake n => exact h.wake n
  | frame r f => exact h.frame r f
  | ending r e => exact h.ending r e
  | stop r => exact h.stop r
  | connect device vendor =>
    obtain @⟨calls, hcalls⟩ := h
    exact .mk (List.rel_append hcalls (.cons (.mk .entered) .nil))
  | shutdown =>
    obtain @⟨calls, hcalls⟩ := h
    simp only [System.step, Channel.shutdown_setCredential]
    exact .mk hcalls
  | shut =>
    obtain @⟨calls, hcalls⟩ := h
    simp only [System.step, System.shut, Channel.shut_setCredential]
    exact .mk hcalls
  | tidy =>
    obtain @⟨calls, hcalls⟩ := h
    simp only [System.step, System.tidy]
    split_ifs
    · exact .mk hcalls
    · exact .mk hcalls
  | disconnect | pass | clearStore | subscribe | unsubscribe =>
    obtain @⟨calls, hcalls⟩ := h
    exact .mk hcalls

/-! ### Systems whose addresses are dialled -/

/-- What an input does if handshakes end as their peers would end them, where addresses can be
dialled at all. -/
def meet (s : System) : Input → System
  | .outcome n o =>
    s.step (.outcome n (match s.waitingFor? n with
      | some u => Dial.outcome u o
      | none => o))
  | i => s.step i

/-- The address whose handshake ends with an input. -/
def ending? (s : System) : Input → Option Url
  | .outcome n _ => s.waitingFor? n
  | _ => none

/-- If a handshake ends, its addresses are too long to be dialled in both systems or in neither. -/
def FitAlike (s s' : System) (i : Input) : Prop :=
  ∀ u ∈ s.ending? i, ∀ u' ∈ s'.ending? i, (Dial.Fits u ↔ Dial.Fits u')

instance (s s' : System) (i : Input) : Decidable (FitAlike s s' i) :=
  inferInstanceAs (Decidable (∀ u ∈ s.ending? i, ∀ u' ∈ s'.ending? i, (_ ↔ _)))

/-- Two systems wait for handshakes of the same subscriptions. -/
lemma Copy.waitingFor? (h : s.Copy settings held s') (n : Nat) :
    Option.Rel (fun u u' => ∃ t, Target.HasTwins settings t u u') (s.waitingFor? n)
      (s'.waitingFor? n) := by
  obtain @⟨calls, hcalls⟩ := h
  rcases Call.twin_getElem? hcalls n with ⟨hn, hn'⟩ | ⟨⟨t, q, x⟩, p, hk, hk', hp⟩
  · simp only [System.waitingFor?, hn, hn']
    exact .none
  · cases hp with
    | opening g d h =>
      simp only [System.waitingFor?, hk, hk']
      exact .some ⟨t, h⟩
    | _ =>
      simp only [System.waitingFor?, hk, hk']
      exact .none

lemma Copy.result? (h : s.Copy settings held s') (n : Nat) : s'.result? n = s.result? n := by
  obtain @⟨calls, hcalls⟩ := h
  rcases Call.twin_getElem? hcalls n with ⟨hn, hn'⟩ | ⟨⟨t, q, x⟩, p, hk, hk', hp⟩
  · simp only [System.result?, hn, hn']
  · cases hp <;> simp only [System.result?, hk, hk']

/-- What is dialled with an input differs in its token only. -/
lemma Copy.dial? (h : s.Copy settings held s') {i i' : Input} (hi : i.Twin i') :
    Option.Rel (fun u u' => ∃ t, Target.HasTwins settings t u u') (s.dial? i) (s'.dial? i') := by
  cases hi with
  | credential => exact .none
  | same =>
    cases i with
    | proceed n =>
      obtain @⟨calls, hcalls⟩ := h
      have hshut : (s.channel.setCredential held).shutDown = s.channel.shutDown := rfl
      rcases Call.twin_getElem? hcalls n with ⟨hn, hn'⟩ | ⟨⟨t, q, x⟩, p, hk, hk', hp⟩
      · simp only [System.dial?, hn, hn']
        exact .none
      · cases hp with
        | prepared h =>
          simp only [System.dial?, hk, hk', hshut]
          split_ifs
          · exact .none
          · exact .some ⟨t, h⟩
        | _ =>
          simp only [System.dial?, hk, hk']
          exact .none
    | _ => exact .none

/-- One input to each of two systems that differ in tokens. -/
theorem Twin.meet (h : s.Twin s') {i i' : Input} (hi : i.Twin i') (hfit : FitAlike s s' i) :
    (s.meet i).Twin (s'.meet i') := by
  obtain ⟨held, hheld, hcopy⟩ := h
  have hstep : ∀ {i : Input}, (∀ k, i ≠ .credential k) → (s.step i).Twin (s'.step i) := by
    intro i hi
    refine ⟨held, ?_, ?_⟩
    · rwa [credentials_step hi]
    · have hsettings : (s.step i).channel.settings = s.channel.settings :=
        (s.move_step i).settings_eq
      rw [hsettings]
      exact hcopy.step hheld hi
  cases hi with
  | credential hk =>
    obtain @⟨calls, hcalls⟩ := hcopy
    exact ⟨_, hk, .mk hcalls⟩
  | same hi =>
    cases i with
    | outcome n o =>
      have houtcome : (match s'.waitingFor? n with
          | some u => Dial.outcome u o
          | none => o) = match s.waitingFor? n with
          | some u => Dial.outcome u o
          | none => o := by
        have hwait := hcopy.waitingFor? n
        generalize hu : s.waitingFor? n = w at hwait
        generalize hu' : s'.waitingFor? n = w' at hwait
        cases hwait with
        | none => rfl
        | some htwins =>
          obtain ⟨t, htwins⟩ := htwins
          exact (Target.outcome_eq htwins (hfit _ hu _ hu') o).symm
      simp only [System.meet, houtcome]
      exact hstep fun _ => nofun
    | _ => exact hstep hi

end System
end LiveTelemetry
