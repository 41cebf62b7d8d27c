import LiveTelemetry.Client.LogFilter
import LiveTelemetry.Client.Run
import LiveTelemetry.Settings.Load

/-!
The program: options, settings, the filter of the log, and one run of the client.
-/
namespace LiveTelemetry

/-- All that a program is started with. -/
structure Invocation where
  words : List String
  /-- The files in the settings directory, by name. -/
  files : Table String
  environment : Table String

/-- What a program leaves behind. -/
structure Report where
  status : Nat
  /-- What is printed on request. -/
  output : String
  /-- The lines that go to the error output. -/
  complaints : List String
  format : LogFormat
  /-- The lines of the log that the filter lets through. -/
  lines : List LogLine
  sent : List Request

namespace Invocation

/-- The name of the program as a source of lines. -/
def source : String := "netpulse"

def filterVariable : String := "RUST_LOG"

def stopReport (environment : Table String) : Options.Stop → Report
  | .usage message => ⟨2, "", [message], .pretty, [], []⟩
  | .help => ⟨0, Options.helpText environment, [], .pretty, [], []⟩
  | .version => ⟨0, Options.versionText, [], .pretty, [], []⟩

/-- The settings that an invocation is run with. -/
def load (i : Invocation) (o : Options) : Except Settings.Fault Settings :=
  Settings.load ⟨i.files, i.environment⟩ o.deployment

/-- The names of the files that may count for an invocation. -/
def fileNames (environment : Table String) (words : List String) : List String :=
  match Options.parse environment words with
  | .ok o => Settings.fileNames o.deployment
  | .error _ => []

/-- What a run leaves behind that has come to a status, with the given lines and requests. -/
def reportOf (i : Invocation) (s : Settings) (status : Nat) (lines : List LogLine)
    (sent : List Request) : Report :=
  let (filter, complaints) :=
    LogFilter.choose (Table.lookup filterVariable i.environment) s.logging.level
  ⟨status, "", complaints, s.logging.format, lines.filter fun l => filter.allows source l.level,
    sent⟩

/-- The client that an invocation runs, with its settings, or the report if there is none. -/
def launch (i : Invocation) (o : Options) (clock : Channel.Clock) :
    Except Report (Settings × Client) :=
  match i.load o with
  | .error f =>
    .error ⟨1, "", ["Failed to load configuration: " ++ f.ofLoading.display], .pretty, [], []⟩
  | .ok s =>
    match Client.begin o s clock with
    | (lines, .error f) =>
      .error (i.reportOf s 1 (lines ++ [⟨.error, "Client error: " ++ f.display, []⟩]) [])
    | (_, .ok c) => .ok (s, c)

/-- What a client leaves behind. -/
def report (i : Invocation) (s : Settings) (c : Client) : Report :=
  i.reportOf s (c.status?.getD 0) c.allLines c.sent

/-- Runs the program. `answer` and `dial` are what becomes of requests and handshakes. -/
def run (i : Invocation) (clock : Channel.Clock) (answer : Controller → Request → Exchange)
    (dial : Url → Outcome) : Report :=
  match Options.parse i.environment i.words with
  | .error stop => stopReport i.environment stop
  | .ok o =>
    match i.launch o clock with
    | .error r => r
    | .ok (s, c) => i.report s (Client.settle answer dial 4 c)

/-- A line of the log as it is written. -/
def lineText (format : LogFormat) (l : LogLine) : String :=
  match format with
  | .json =>
    (Json.ofFields [("level", .text l.level.label), ("target", .text source),
      ("fields", .ofFields (("message", .text l.message) :: l.fields))]).render
  | .pretty =>
    let fields := l.fields.map fun (k, v) => k ++ ": " ++ v.render
    "  " ++ l.level.label ++ " " ++ source ++ ": " ++ ", ".intercalate (l.message :: fields)

end Invocation
end LiveTelemetry
