import LiveTelemetry.Proofs.Control.Request
import Mathlib.Data.List.Forall2
import Mathlib.Data.List.Induction

/-!
What a controller sends and keeps over any calls, while its credential comes and goes. Main
statement: each call with a device, a credential at its time and an address that requests can be
sent to sends one request, in the order of the calls, and no other call sends any; what a call
comes to is decided by this and by the answer; and the failure that is kept is that of the last
call that keeps one.
-/
namespace LiveTelemetry

/-- What an answer means: success, or a kind of failure with the status of a rejection. -/
def Exchange.verdict : Exchange → Except (Failure.Kind × Option UInt16) Unit
  | answered status _ =>
    if 200 ≤ status.toNat ∧ status.toNat < 300 then .ok () else .error (.remote, some status)
  | unreachable => .error (.transport, none)
  | expired => .error (.timeout, none)

namespace Controller

/-- A call of a controller. -/
structure Command where
  action : Action
  device : DeviceId
  /-- Whether the failure is kept, and not handed out. -/
  keeps : Bool
  /-- What becomes of the request, if there is one. -/
  fate : Exchange

/-- A call with the credential that is held at its time. -/
structure Issued where
  command : Command
  held : Option Credential

/-- What can be done with a controller and the slot of its credential. -/
inductive Operation where
  | credential (held : Option Credential)
  | call (m : Command)

/-- A controller in use: with the slot, the requests it has sent, and what its calls came to. -/
structure Session where
  controller : Controller
  slot : CredentialSlot
  sent : List Request
  results : List (Except Failure Unit)

namespace Session

def new (c : Controller) (slot : CredentialSlot) : Session := ⟨c, slot, [], []⟩

def perform (s : Session) : Operation → Session
  | .credential held => { s with slot := ⟨held⟩ }
  | .call m =>
    let (request, result) := s.controller.attempt s.slot (fun _ => m.fate) m.action m.device
    { s with
      controller := if m.keeps then s.controller.note result else s.controller
      sent := s.sent ++ request.toList
      results := s.results ++ [result] }

def performAll (s : Session) (ops : List Operation) : Session := ops.foldl perform s

lemma sent_call (s : Session) (m : Command) : (s.perform (.call m)).sent = s.sent ++
    (s.controller.attempt s.slot (fun _ => m.fate) m.action m.device).1.toList := rfl

lemma results_call (s : Session) (m : Command) : (s.perform (.call m)).results = s.results ++
    [(s.controller.attempt s.slot (fun _ => m.fate) m.action m.device).2] := rfl

lemma lastError_call (s : Session) (m : Command) :
    (s.perform (.call m)).controller.lastError =
      if m.keeps then
        match (s.controller.attempt s.slot (fun _ => m.fate) m.action m.device).2 with
        | .ok () => none
        | .error f => some f
      else s.controller.lastError := by
  simp only [perform]
  split_ifs
  · cases (s.controller.attempt s.slot (fun _ => m.fate) m.action m.device).2 <;> rfl
  · rfl

end Session

/-- The calls among some operations, if a credential is held or none is. -/
def issued (held : Option Credential) : List Operation → List Issued
  | [] => []
  | .credential k :: ops => issued k ops
  | .call m :: ops => ⟨m, held⟩ :: issued held ops

namespace Issued

/-- A call sends a request. -/
def IsDue (base : Url) (i : Issued) : Prop :=
  i.command.device.isBlank = false ∧
    ∃ k ∈ i.held, Request.Sendable base i.command.action i.command.device k

instance (base : Url) (i : Issued) : Decidable (i.IsDue base) :=
  inferInstanceAs (Decidable (_ ∧ _))

/-- The request that a call sends. -/
def Sends (base : Url) (i : Issued) (r : Request) : Prop :=
  ∃ k ∈ i.held, Request.Carries base i.command.action i.command.device k r

/-- What a call comes to: success, or a kind of failure with the status of a rejection. -/
def verdict (base : Url) (i : Issued) : Except (Failure.Kind × Option UInt16) Unit :=
  if i.command.device.isBlank = true ∨ i.held = none then .error (.precondition, none)
  else if i.IsDue base then i.command.fate.verdict
  else .error (.transport, none)

end Issued

/-- What is shown of a result: the kind of a failure, and its status. -/
def summary (result : Except Failure Unit) : Except (Failure.Kind × Option UInt16) Unit :=
  result.mapError fun f => (f.kind, f.status)

/-- The failure that is kept behind some calls: that of the last one that keeps any. -/
def kept (calls : List (Issued × Except Failure Unit)) : Option Failure :=
  match (calls.filter fun x => x.1.command.keeps).getLast? with
  | some (_, .error f) => some f
  | _ => none

/-! ### One call -/

variable {c : Controller} {path : List String}

lemma summary_settle (r : Request) (x : Exchange) : summary (x.settle r) = x.verdict := by
  cases x with
  | answered status body =>
    simp only [Exchange.settle, Exchange.verdict, Http.isSuccess, Bool.and_eq_true,
      decide_eq_true_eq]
    split_ifs <;> rfl
  | unreachable => rfl
  | expired => rfl

/-- A call that is due sends its request, and another one sends nothing. -/
lemma attempt_cases (h : c.base.path = .segments path) (slot : CredentialSlot) (m : Command) :
    let i : Issued := ⟨m, slot.held⟩
    let x := c.attempt slot (fun _ => m.fate) m.action m.device
    summary x.2 = i.verdict c.base ∧
      (i.IsDue c.base ∧ (∃ r, x.1 = some r ∧ i.Sends c.base r) ∨
        ¬i.IsDue c.base ∧ x.1 = none) := by
  intro i x
  cases hblank : m.device.isBlank with
  | true =>
    have hx : x = (none, .error DeviceId.required) := attempt_of_blank hblank
    rw [hx]
    refine ⟨?_, .inr ⟨fun hd => absurd (hblank.symm.trans hd.1) (by decide), rfl⟩⟩
    rw [Issued.verdict, if_pos (.inl hblank)]
    rfl
  | false =>
    cases hheld : slot.held with
    | none =>
      have hslot : slot = .empty := congrArg CredentialSlot.mk hheld
      have hx : x = (none, .error .noCredential) :=
        (congrArg (c.attempt · _ _ _) hslot).trans (attempt_of_empty hblank)
      rw [hx]
      have hdue : ¬i.IsDue c.base := by
        rintro ⟨-, k, hk, -⟩
        cases hheld.symm.trans hk
      refine ⟨?_, .inr ⟨hdue, rfl⟩⟩
      rw [Issued.verdict, if_pos (.inr hheld)]
      rfl
    | some k =>
      have hready : ¬(m.device.isBlank = true ∨ slot.held = none) := by
        rw [hblank, hheld]
        simp
      have hrequest : c.request slot m.action m.device =
          Request.build c.base m.action m.device k := by
        simp [request, hblank, hheld]
      rcases Request.build_cases h m.action m.device k with
        ⟨r, hbuild, hs, hr⟩ | ⟨f, hbuild, hs, hkind, hstatus⟩
      · have hdue : i.IsDue c.base := ⟨hblank, k, hheld, hs⟩
        have hx : x = (some r, m.fate.settle r) := by
          change c.attempt _ _ _ _ = _
          rw [attempt, hrequest, hbuild]
        rw [hx]
        refine ⟨?_, .inl ⟨hdue, r, rfl, k, hheld, hr⟩⟩
        rw [Issued.verdict, if_neg hready, if_pos hdue, summary_settle]
      · have hdue : ¬i.IsDue c.base := by
          rintro ⟨-, k', hk', hs'⟩
          obtain rfl := Option.some.inj (hheld.symm.trans hk')
          exact hs hs'
        have hx : x = (none, .error f) := by
          change c.attempt _ _ _ _ = _
          rw [attempt, hrequest, hbuild]
        rw [hx]
        refine ⟨?_, .inr ⟨hdue, rfl⟩⟩
        rw [Issued.verdict, if_neg hready, if_neg hdue, summary, Except.mapError, hkind, hstatus]

/-- A device whose name is longer than any address has no request. -/
lemma Session.sent_of_long (h : c.base.path = .segments path) (slot : CredentialSlot) (m : Command)
    (hd : Url.IsSegment m.device.text) (hlong : 65534 < m.device.text.utf8ByteSize) :
    ((new c slot).perform (.call m)).sent = [] := by
  obtain ⟨-, ⟨⟨-, k, -, hs⟩, -⟩ | ⟨-, hnone⟩⟩ := attempt_cases h slot m
  · exact absurd hs (Request.not_sendable_of_long h hd hlong)
  · have hx : (c.attempt slot (fun _ => m.fate) m.action m.device).1.toList = [] := by
      rw [hnone]
      rfl
    exact hx

/-! ### Any calls -/

lemma kept_push (calls : List (Issued × Except Failure Unit)) (i : Issued)
    (result : Except Failure Unit) : kept (calls ++ [(i, result)]) =
      if i.command.keeps then
        match result with
        | .ok () => none
        | .error f => some f
      else kept calls := by
  unfold kept
  cases hk : i.command.keeps with
  | true => cases result <;> simp [hk]
  | false => simp [hk]

namespace Session

/-- What a session has sent and keeps is exactly what its calls ask for. -/
structure Accounts (base : Url) (calls : List Issued) (s : Session) : Prop where
  /-- One request for each call that is due, in their order, and no other. -/
  sent : List.Forall₂ (Issued.Sends base) (calls.filter fun i => i.IsDue base) s.sent
  results : s.results.map summary = calls.map (Issued.verdict base)
  lastError : s.controller.lastError = kept (calls.zip s.results)

variable {base : Url} {path : List String} {calls : List Issued} {s : Session}

lemma base_perform (s : Session) (op : Operation) :
    (s.perform op).controller.base = s.controller.base := by
  cases op with
  | credential => rfl
  | call m =>
    simp only [perform]
    split_ifs
    · exact base_note _ _
    · rfl

lemma base_performAll (s : Session) (ops : List Operation) :
    (s.performAll ops).controller.base = s.controller.base := by
  induction ops generalizing s with
  | nil => rfl
  | cons op ops ih => exact (ih _).trans (s.base_perform op)

/-- One more call adds its request, if it is due, and its result. -/
lemma Accounts.call (hpath : base.path = .segments path) (hbase : s.controller.base = base)
    (h : Accounts base calls s) (m : Command) :
    Accounts base (calls ++ [⟨m, s.slot.held⟩]) (s.perform (.call m)) := by
  subst hbase
  obtain ⟨hverdict, hsent⟩ := attempt_cases hpath s.slot m
  have hlength : calls.length = s.results.length := by
    have := congrArg List.length h.results
    rwa [List.length_map, List.length_map, eq_comm] at this
  refine ⟨?_, ?_, ?_⟩
  · rw [List.filter_append, sent_call]
    refine List.rel_append h.sent ?_
    rcases hsent with ⟨hdue, r, hr, hsends⟩ | ⟨hdue, hnone⟩
    · rw [List.filter_cons_of_pos (by simpa using hdue), hr]
      exact .cons hsends .nil
    · rw [List.filter_cons_of_neg (by simpa using hdue), hnone]
      exact .nil
  · rw [results_call, List.map_append, List.map_append, h.results, List.map_singleton, hverdict,
      List.map_singleton]
  · rw [lastError_call, results_call, List.zip_append hlength, List.zip_cons_cons,
      List.zip_nil_left, kept_push, h.lastError]

lemma issued_push (s : Session) (ops : List Operation) (m : Command) :
    issued s.slot.held (ops ++ [.call m]) =
      issued s.slot.held ops ++ [⟨m, (s.performAll ops).slot.held⟩] := by
  induction ops generalizing s with
  | nil => rfl
  | cons op ops ih =>
    cases op with
    | credential held => exact ih ⟨s.controller, ⟨held⟩, s.sent, s.results⟩
    | call m' => exact congrArg (List.cons _) (ih (s.perform (.call m')))

lemma issued_push_credential (held held' : Option Credential) (ops : List Operation) :
    issued held (ops ++ [.credential held']) = issued held ops := by
  induction ops generalizing held with
  | nil => rfl
  | cons op ops ih =>
    cases op with
    | credential held => exact ih held
    | call m => exact congrArg (List.cons _) (ih held)

lemma accounts_performAll {c : Controller} (hpath : c.base.path = .segments path)
    (hnew : c.lastError = none) (slot : CredentialSlot) (ops : List Operation) :
    Accounts c.base (issued slot.held ops) ((new c slot).performAll ops) := by
  induction ops using List.reverseRecOn with
  | nil => exact ⟨.nil, rfl, hnew⟩
  | append_singleton ops op ih =>
    have hpush : (new c slot).performAll (ops ++ [op]) =
        ((new c slot).performAll ops).perform op := by
      simp [performAll]
    rw [hpush]
    cases op with
    | credential held =>
      rw [issued_push_credential]
      exact ⟨ih.sent, ih.results, ih.lastError⟩
    | call m =>
      have hissued : issued slot.held (ops ++ [.call m]) = _ := issued_push (new c slot) ops m
      rw [hissued]
      exact ih.call hpath ((new c slot).base_performAll ops) m

end Session

/-- Over any calls, while the credential comes and goes, a controller sends one request for each
call that is due, in their order, and no other. What a call comes to is decided by whether it is due
and by the answer, and the failure that is kept is that of the last call that keeps one; a call that
hands its failure out leaves the controller as it was. -/
theorem calls_exact (s : ControlSettings) (c : Controller) (h : new s = .ok c)
    (slot : CredentialSlot) (ops : List Operation) :
    let t := (Session.new c slot).performAll ops
    Session.Accounts c.base (issued slot.held ops) t ∧
    ∀ m : Command, m.keeps = false → (t.perform (.call m)).controller = t.controller := by
  obtain ⟨path, hpath⟩ := base_of_new h
  have hnew : c.lastError = none := by
    unfold new at h
    split at h
    · cases h
    · split_ifs at h
      cases h
      rfl
  refine ⟨Session.accounts_performAll hpath hnew slot ops, fun m hm => ?_⟩
  simp [Session.perform, hm]

/-- A call before there is a credential, one that is rejected and hands its failure out, one that is
accepted, and one after the credential was taken away. -/
theorem calls_exact_late : ∃ c, new .standard = .ok c ∧
    let token (k : Option String) := Operation.credential (CredentialSlot.ofToken k).held
    let ops := [.call ⟨.start, ⟨"r1"⟩, true, .answered 204 []⟩, token (some "k1"),
      .call ⟨.start, ⟨"r1"⟩, false, .answered 503 []⟩, token (some "k2"),
      .call ⟨.start, ⟨"r1"⟩, true, .answered 204 []⟩, token none,
      .call ⟨.stop, ⟨"r1"⟩, true, .answered 204 []⟩]
    let t := (Session.new c .empty).performAll ops
    Session.Accounts c.base (issued none ops) t ∧
    t.sent.map (fun r => (r.action, r.authorization)) =
      [(.start, ["Bearer k1"]), (.start, ["Bearer k2"])] ∧
    t.results.map summary = [.error (.precondition, none), .error (.remote, some 503), .ok (),
      .error (.precondition, none)] ∧
    t.controller.lastError.map Failure.kind = some .precondition := by
  refine ⟨⟨⟨"http", "", none, some "localhost", some 8000, .segments ["api"], none, none⟩, 15000,
    none⟩, rfl, ?_⟩
  intro token ops t
  obtain ⟨haccounts, -⟩ := calls_exact .standard _ rfl .empty ops
  exact ⟨haccounts, by decide +kernel, haccounts.results.trans (by decide +kernel),
    by decide +kernel⟩

/-- A name of that many letters. -/
def letters (n : Nat) : String := String.ofList (List.replicate n 'a')

lemma utf8ByteSize_letters (n : Nat) : (letters n).utf8ByteSize = n := by
  have ha : 'a'.utf8Size = 1 := rfl
  rw [letters, ← Text.Utf8.length_encode, Text.Utf8.encode, String.toList_ofList]
  simp [List.flatMap_replicate, ha]

lemma isSegment_letters {n : Nat} (h : 2 < n) : Url.IsSegment (letters n) := by
  have hsize : ∀ name, name.utf8ByteSize ≤ 2 → letters n ≠ name := fun name hn he => by
    rw [← he, utf8ByteSize_letters] at hn
    omega
  refine ⟨hsize "." (by decide), hsize ".." (by decide), fun x hx => ?_⟩
  rw [letters, String.toList_ofList] at hx
  rw [List.eq_of_mem_replicate hx]
  decide

/-- Calls with a device and a credential that send nothing: the address is none of the web, or the
name of the device is longer than any address. -/
theorem calls_without_requests :
    (∃ c, new { apiUrl := "ws://localhost/api" } = .ok c ∧
      ((Session.new c (.ofToken (some "k"))).perform
        (.call ⟨.start, ⟨"r1"⟩, true, .answered 204 []⟩)).sent = []) ∧
    ∃ c, new .standard = .ok c ∧
      ((Session.new c (.ofToken (some "k"))).perform
        (.call ⟨.start, ⟨letters 65535⟩, true, .answered 204 []⟩)).sent = [] := by
  refine ⟨⟨_, rfl, by decide +kernel⟩,
    ⟨⟨"http", "", none, some "localhost", some 8000, .segments ["api"], none, none⟩, 15000, none⟩,
    rfl, ?_⟩
  exact Session.sent_of_long rfl _ ⟨.start, ⟨letters 65535⟩, true, .answered 204 []⟩
    (isSegment_letters (by decide)) ((utf8ByteSize_letters 65535).symm ▸ by decide)

end Controller
end LiveTelemetry
