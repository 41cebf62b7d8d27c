import LiveTelemetry.Channel.Basic

/-!
Attempts to open the channel. A call passes through phases, and between two of them other calls
may run: it looks at the channel, claims the right to attempt, prepares the address, begins, waits
for the handshake, settles, and gives the right back.
-/
namespace LiveTelemetry

/-- How a handshake ends. -/
inductive Outcome where
  | opened
  | failed (f : Failure)

inductive Phase where
  | entered
  | checked
  | claimed
  | prepared (address : Url)
  /-- The handshake of a generation runs, up to its deadline. -/
  | opening (generation : Nat) (address : Url) (deadline : Nat)
  /-- The result is known, and the right to attempt is still held. -/
  | settled (result : Option Bool)
  /-- The call is over; one that was given up has no result. -/
  | finished (result : Option Bool)

namespace Channel

def cancelled : Failure := .transport "Connection attempt cancelled"

/-- The failure of a handshake that takes too long. -/
def expired (s : ChannelSettings) : Failure :=
  .timeout s!"Push channel did not open within {s.timeoutMilliseconds} ms"

/-- What counts of a handshake that ends at a time: behind its deadline it has failed. -/
def timely (now deadline : Nat) (o : Outcome) (s : ChannelSettings) : Outcome :=
  if deadline < now then .failed (expired s) else o

/-- Looks whether there is anything to do for a target. -/
def check (t : Target) (c : Channel) : Channel × Phase :=
  if t.device.isBlank then (c.record DeviceId.required, .finished (some false))
  else if c.shutDown then (c, .finished (some false))
  else if c.state = .connected ∧ c.target = some t then (c, .finished (some true))
  else (c, .checked)

/-- Claims the right to attempt; only one call holds it at a time. -/
def claim (c : Channel) : Channel × Phase :=
  if c.attempting then (c, .finished (some false)) else ({ c with attempting := true }, .claimed)

/-- Prepares the address, with the credential that is held at this time. -/
def prepare (t : Target) (c : Channel) : Channel × Phase :=
  match c.credentials.held with
  | none => (c.record .noCredential, .settled (some false))
  | some k =>
    match t.address c.settings k with
    | .error f => (c.record f, .settled (some false))
    | .ok u => (c, .prepared u)

/-- Begins an attempt in a new generation. -/
def start (now : Nat) (t : Target) (u : Url) (c : Channel) : Channel × Phase :=
  if c.shutDown then (c, .settled (some false))
  else
    ({ c.renew with
        target := some t
        reconnectAllowed := true
        state := .connecting
        counters := c.counters.attempt },
      .opening (c.generation + 1) u (now + c.settings.timeoutMilliseconds))

/-- Settles the attempt of generation `g`. An open channel is kept only if the generation is still
current; a failure is recorded in any case. -/
def settle (g : Nat) (o : Outcome) (c : Channel) : Channel × Phase :=
  match o with
  | .opened =>
    if c.isCurrent g then
      ({ c with
          reader := some g
          state := .connected
          lastError := none
          counters := c.counters.openSession },
        .settled (some true))
    else (c, .settled (some false))
  | .failed f =>
    let state := if c.generation = g then .disconnected else c.state
    ({ c with state, lastError := some f }, .settled (some false))

/-- Settles the attempt of generation `g` when its call is given up. -/
def abandon (g : Nat) (c : Channel) : Channel × Phase :=
  if c.isCurrent g then ({ c.record cancelled with state := .disconnected }, .settled none)
  else (c, .settled none)

/-- Gives the right to attempt back. -/
def release (result : Option Bool) (c : Channel) : Channel × Phase :=
  ({ c with attempting := false }, .finished result)

/-- Takes the next step of a call. A call whose handshake runs waits, and one that is over stays
so. -/
def proceed (now : Nat) (t : Target) (p : Phase) (c : Channel) : Channel × Phase :=
  match p with
  | .entered => c.check t
  | .checked => c.claim
  | .claimed => c.prepare t
  | .prepared u => c.start now t u
  | .opening g u d => (c, .opening g u d)
  | .settled r => c.release r
  | .finished r => (c, .finished r)

@[simp] theorem timely_of_le {now deadline : Nat} {o : Outcome} {s : ChannelSettings}
    (h : now ≤ deadline) : timely now deadline o s = o := by
  simp [timely, Nat.not_lt.2 h]

end Channel
end LiveTelemetry
