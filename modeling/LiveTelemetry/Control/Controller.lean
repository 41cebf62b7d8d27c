import LiveTelemetry.Control.Exchange

/-!
The controller of collection. Its calls are sent once each, with the credential that is held at that
time; the failure of the last recorded call is kept.
-/
namespace LiveTelemetry

structure Controller where
  base : Url
  /-- The time that a request may take, in milliseconds. -/
  timeout : Nat
  lastError : Option Failure

namespace Controller

def new (s : ControlSettings) : Except Failure Controller :=
  match Url.parse s.apiUrl with
  | .error f => .error (.configuration ("Invalid control API URL: " ++ f.message))
  | .ok u =>
    if u.isPlain then .error (.configuration ("Control API URL cannot be a base: " ++ s.apiUrl))
    else .ok ⟨u, s.timeoutMilliseconds, none⟩

/-- The request of a call, if it gets that far. -/
def request (c : Controller) (slot : CredentialSlot) (a : Action) (d : DeviceId) :
    Except Failure Request :=
  if d.isBlank then .error DeviceId.required
  else match slot.held with
    | none => .error .noCredential
    | some k => Request.build c.base a d k

/-- What a call comes to, with the request it sends; `answer` is what becomes of a request. -/
def attempt (c : Controller) (slot : CredentialSlot) (answer : Request → Exchange) (a : Action)
    (d : DeviceId) : Option Request × Except Failure Unit :=
  match c.request slot a d with
  | .error f => (none, .error f)
  | .ok r => (some r, (answer r).settle r)

/-- Keeps the failure of a call, or forgets the one that was kept. -/
def note (c : Controller) : Except Failure Unit → Controller
  | .ok () => { c with lastError := none }
  | .error f => { c with lastError := some f }

@[simp] theorem base_note (c : Controller) (result : Except Failure Unit) :
    (c.note result).base = c.base := by
  cases result <;> rfl

theorem attempt_of_blank {c : Controller} {slot : CredentialSlot} {answer : Request → Exchange}
    {a : Action} {d : DeviceId} (h : d.isBlank = true) :
    c.attempt slot answer a d = (none, .error DeviceId.required) := by
  simp [attempt, request, h]

theorem attempt_of_empty {c : Controller} {answer : Request → Exchange} {a : Action} {d : DeviceId}
    (h : d.isBlank = false) : c.attempt .empty answer a d = (none, .error .noCredential) := by
  simp [attempt, request, h, CredentialSlot.empty]

end Controller
end LiveTelemetry
