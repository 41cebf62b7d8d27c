import LiveTelemetry.Channel.System
import LiveTelemetry.Client.Options
import LiveTelemetry.Control.Controller
import LiveTelemetry.Reading.Diagnostic
import LiveTelemetry.Settings.Basic

/-!
A run of the client for one device: it starts the collection, opens the push channel, streams
until it is told to stop, closes the channel, and stops the collection that it started.
-/
namespace LiveTelemetry

/-- Where a run stands. -/
inductive Stage where
  /-- The request to start the collection is under way. -/
  | starting (r : Request)
  /-- The handshake of the channel is under way. -/
  | opening
  /-- The channel has opened. Signals are handled from the moment at which the run first waits for
  them. -/
  | streaming (guarded : Bool)
  /-- The request to stop the collection is under way; the result of the run is known. -/
  | stopping (r : Request) (result : Except Failure Unit)
  | ended (result : Except Failure Unit)
  /-- A signal has ended the process before anything was there to handle it. -/
  | killed

/-- What a client does outwards. -/
inductive Deed where
  | request (r : Request)
  /-- The channel is called. -/
  | call
  /-- The channel is disconnected. -/
  | hangUp
  deriving DecidableEq

def Deed.request? : Deed → Option Request
  | request r => some r
  | call | hangUp => none

structure Client where
  device : DeviceId
  vendor : String
  controller : Controller
  system : System
  /-- Whether the service has accepted to start the collection. -/
  collecting : Bool
  stage : Stage
  /-- All that was done, in its order. -/
  deeds : List Deed
  /-- The lines of the log, in their order. -/
  lines : List LogLine

/-- Whether an input comes of the backend, of time or of what runs on a channel, and not of the one
who uses the channel. -/
def Input.comesUnasked : Input → Bool
  | proceed _ | outcome .. | expire _ | frame .. | ending .. | stop _ | pass _ | wake _ => true
  | _ => false

/-- What happens to a running client. -/
inductive Happening where
  | answered (x : Exchange)
  | handshake (o : Outcome)
  | channel (i : Input) (h : i.comesUnasked = true)
  | report
  /-- The run waits for signals for the first time. -/
  | guard
  | signal

namespace Client

def versionNumber : String := "0.1.0"

/-- The name under which the log observes. -/
def logName : String := "links"

def say (level : LogLevel) (message : String) (c : Client) : Client :=
  { c with lines := c.lines ++ [⟨level, message, []⟩] }

/-- The log of link events that the settings ask for. -/
def linkLog (s : HistorySettings) : LinkLog :=
  let log := LinkLog.new s.maxEvents.toNat
  if s.notificationsEnabled then
    log.withNotifier ⟨.logging, some (.ofMilliseconds s.notificationWindow)⟩
  else log

def newSystem (s : Settings) (clock : Channel.Clock) : System :=
  let c := Channel.new s.channel s.history.maxDataPoints.toNat s.auth.credentialSlot
  .new (c.subscribe logName (linkLog s.history)).1 clock

def channel (c : Client) : Channel := c.system.channel

/-- The request for an action on the device, if it gets that far. -/
def ask (a : Action) (c : Client) : Except Failure Request :=
  c.controller.request c.channel.credentials a c.device

def act (d : Deed) (c : Client) : Client := { c with deeds := c.deeds ++ [d] }

/-- The requests that were sent to the service, in their order. -/
def sent (c : Client) : List Request := c.deeds.filterMap Deed.request?

/-- The latest sample of each metric of the device. -/
def latestLines (c : Client) : List LogLine :=
  let id := c.device.text
  (c.channel.store.metricNames id).filterMap fun metric =>
    (c.channel.store.latest id metric).map fun s =>
      ⟨.info, "Latest sample",
        [("device_id", .text id), ("metric", .text metric), ("value", .text s.value.diagnostic),
          ("timestamp", .text s.timestamp)]⟩

/-- The totals of the channel and of the link events. -/
def totalLine (c : Client) : LogLine :=
  let n := c.channel.counters
  let links := match Table.lookup logName c.channel.logs with
    | none => Statistics.empty
    | some l => l.statistics
  ⟨.info, "Telemetry report",
    [("messages", .ofNat n.received.toNat), ("dropped", .ofNat n.dropped.toNat),
      ("link_events", .ofNat links.total.toNat), ("link_up", .ofNat links.up.toNat),
      ("link_down", .ofNat links.down.toNat)]⟩

def report (c : Client) : Client :=
  { c with lines := c.lines ++ c.latestLines ++ [c.totalLine] }

/-- The run is over. One that was told to stop takes its leave. -/
def finish (result : Except Failure Unit) (c : Client) : Client :=
  let c := { c with stage := .ended result }
  match result with
  | .ok () => c.report.say .info "NetPulse client shut down"
  | .error _ => c

/-- The call to stop the collection is over. -/
def afterStop (stopped result : Except Failure Unit) (c : Client) : Client :=
  let c := { c with controller := c.controller.note stopped }
  match result, stopped with
  | .ok (), .error f =>
    (c.say .warn ("Collection not stopped for " ++ c.device.text ++ ": " ++ f.display)).finish
      (.ok ())
  | _, _ => c.finish result

/-- The run is over, unless the collection has to be stopped first. -/
def leave (result : Except Failure Unit) (c : Client) : Client :=
  if c.collecting then
    match c.ask .stop with
    | .ok r => { c.act (.request r) with stage := .stopping r result }
    | .error f => c.afterStop (.error f) result
  else c.finish result

/-- The number of the only call that a run makes itself. -/
def ownCall : Nat := 0

def notOpened : Failure := .internal "Push channel did not open"

/-- Goes on when the call for the channel is over. -/
def afterCall (c : Client) : Client :=
  if c.system.result? ownCall = some true then { c with stage := .streaming false }
  else c.leave (.error ((c.channel.lastError.getD notOpened).copy))

/-- Opens the channel. -/
def openChannel (c : Client) : Client :=
  let c := { c.act .call with system := (c.system.call c.device c.vendor).1 }
  if (c.system.waitingFor? ownCall).isSome then { c with stage := .opening } else c.afterCall

/-- Goes on when the call to start the collection is over. -/
def afterStart (result : Except Failure Unit) (c : Client) : Client :=
  let c := { c with controller := c.controller.note result }
  match result with
  | .ok () => { c with collecting := true }.openChannel
  | .error f =>
    (c.say .warn ("Collection not started for " ++ c.device.text ++ ": " ++ f.display)).openChannel

/-- A client that has done nothing yet. -/
def fresh (o : Options) (s : Settings) (clock : Channel.Clock) (device : DeviceId)
    (controller : Controller) (lines : List LogLine) : Client where
  device
  vendor := o.vendor
  controller
  system := newSystem s clock
  collecting := false
  stage := .opening
  deeds := []
  lines

/-- The first thing that a client does. -/
def enter (idle : Bool) (c : Client) : Client :=
  if idle then c.openChannel
  else match c.ask .start with
    | .ok r => { c.act (.request r) with stage := .starting r }
    | .error f => c.afterStart (.error f)

/-- Begins a run, up to the first thing that it waits for. -/
def begin (o : Options) (s : Settings) (clock : Channel.Clock) :
    List LogLine × Except Failure Client :=
  let lines := [⟨.info, "Starting NetPulse v" ++ versionNumber, []⟩]
  (lines, do
    let device ← DeviceId.parse o.device
    let controller ← Controller.new s.control
    return (fresh o s clock device controller lines).enter o.noCollect)

/-- Tells of a change of the channel. -/
def tellState (before : ChannelState) (c : Client) : Client :=
  let now := c.channel.state
  if now = before then c
  else match now, c.channel.lastError with
    | .disconnected, some f => c.say .warn ("Push channel " ++ now.tag ++ ": " ++ f.display)
    | _, _ => c.say .info ("Push channel " ++ now.tag)

/-- The run was told to stop. -/
def signalled (c : Client) : Client :=
  let c := c.say .info "Shutdown signal received"
  { c.act .hangUp with system := c.system.step .disconnect }.leave (.ok ())

/-- What comes of a happening. One that does not belong to the stage changes nothing. -/
def step (c : Client) : Happening → Client
  | .answered x =>
    match c.stage with
    | .starting r => c.afterStart (x.settle r)
    | .stopping r result => c.afterStop (x.settle r) result
    | _ => c
  | .handshake o =>
    match c.stage with
    | .opening => { c with system := c.system.answer ownCall o }.afterCall
    | _ => c
  | .channel i _ =>
    match c.stage with
    | .streaming _ => { c with system := c.system.step i }.tellState c.channel.state
    | _ => c
  | .report =>
    match c.stage with
    | .streaming _ => c.report
    | _ => c
  | .guard =>
    match c.stage with
    | .streaming _ => { c with stage := .streaming true }
    | _ => c
  | .signal =>
    match c.stage with
    | .streaming true => c.signalled
    | .ended _ => c
    | .stopping _ (.ok ()) => c
    | _ => { c with stage := .killed }

def run (c : Client) (hs : List Happening) : Client := hs.foldl step c

/-- The exit status of a run that is over. -/
def status? (c : Client) : Option Nat :=
  match c.stage with
  | .ended (.ok ()) => some 0
  | .ended (.error _) => some 1
  | _ => none

/-- The lines of a run, with the failure that ended it. -/
def allLines (c : Client) : List LogLine :=
  match c.stage with
  | .ended (.error f) => c.lines ++ [⟨.error, "Client error: " ++ f.display, []⟩]
  | _ => c.lines

/-- Runs on as long as the next happening is an answer or the end of a handshake. -/
def settle (answer : Controller → Request → Exchange) (dial : Url → Outcome) :
    Nat → Client → Client
  | 0, c => c
  | n + 1, c =>
    match c.stage, c.system.waitingFor? ownCall with
    | .starting r, _ => settle answer dial n (c.step (.answered (answer c.controller r)))
    | .stopping r _, _ => settle answer dial n (c.step (.answered (answer c.controller r)))
    | .opening, some u => settle answer dial n (c.step (.handshake (dial u)))
    | _, _ => c

end Client
end LiveTelemetry
