import LiveTelemetry.Number.Numeral
import LiveTelemetry.Table

/-!
The options of the program. Words are taken from left to right, and the value of an option is
looked at when the next option, or the end, has been reached.
-/
namespace LiveTelemetry

structure Options where
  device : String
  vendor : String
  /-- Names the file of settings over the default one. -/
  deployment : String
  noCollect : Bool
  /-- The time between two reports, in seconds. -/
  reportInterval : UInt64
  deriving DecidableEq

namespace Options

/-- Why the program does not run: it was called wrongly, or was only asked about itself. -/
inductive Stop where
  | usage (message : String)
  | help
  | version
  deriving DecidableEq

inductive Name where
  | device
  | vendor
  | deployment
  | noCollect
  | reportInterval
  | help
  | version
  deriving DecidableEq

namespace Name

def long : Name → String
  | device => "device"
  | vendor => "vendor"
  | deployment => "env"
  | noCollect => "no-collect"
  | reportInterval => "report-interval"
  | help => "help"
  | version => "version"

def short? : Name → Option Char
  | device => some 'd'
  | deployment => some 'e'
  | help => some 'h'
  | version => some 'V'
  | _ => none

/-- What stands for the value of an option that has one. -/
def placeholder? : Name → Option String
  | device => some "<DEVICE>"
  | vendor => some "<VENDOR>"
  | deployment => some "<ENV>"
  | reportInterval => some "<REPORT_INTERVAL>"
  | _ => none

def all : List Name := [device, vendor, deployment, noCollect, reportInterval, help, version]

/-- An option as messages show it. -/
def shown (n : Name) : String :=
  "--" ++ n.long ++ (match n.placeholder? with
    | none => ""
    | some p => " " ++ p)

end Name

namespace Stop

def unexpected (word : String) : Stop :=
  usage ("error: unexpected argument \x27" ++ word ++ "\x27 found")

def repeated (n : Name) : Stop :=
  usage ("error: the argument \x27" ++ n.shown ++ "\x27 cannot be used multiple times")

def valueless (n : Name) : Stop :=
  usage ("error: a value is required for \x27" ++ n.shown ++ "\x27 but none was supplied")

def superfluous (n : Name) (value : String) : Stop :=
  usage ("error: unexpected value \x27" ++ value ++ "\x27 for \x27" ++ n.shown ++
    "\x27 found; no more were expected")

def invalid (n : Name) (value reason : String) : Stop :=
  usage ("error: invalid value \x27" ++ value ++ "\x27 for \x27" ++ n.shown ++ "\x27: " ++ reason)

def missing : Stop := usage "error: the following required arguments were not provided:"

end Stop

/-- What has been given so far. -/
structure Given where
  device : Option String
  vendor : Option String
  deployment : Option String
  noCollect : Bool
  reportInterval : Option UInt64

def nothing : Given := ⟨none, none, none, false, none⟩

def seconds (value : String) : Except Stop UInt64 :=
  match Numeral.natural? value.toList with
  | some n =>
    if n < UInt64.size then .ok (UInt64.ofNat n)
    else .error (.invalid .reportInterval value "number too large to fit in target type")
  | none =>
    .error (.invalid .reportInterval value
      (if value = "" then "cannot parse integer from empty string"
        else "invalid digit found in string"))

/-- Takes over the value of an option. -/
def give (n : Name) (value : String) (g : Given) : Except Stop Given :=
  match n with
  | .device => if g.device.isSome then .error (.repeated n) else .ok { g with device := some value }
  | .vendor => if g.vendor.isSome then .error (.repeated n) else .ok { g with vendor := some value }
  | .deployment =>
    if g.deployment.isSome then .error (.repeated n) else .ok { g with deployment := some value }
  | .reportInterval =>
    if g.reportInterval.isSome then .error (.repeated n)
    else (seconds value).map fun s => { g with reportInterval := some s }
  | _ => .ok g

/-- Takes over an option that has no value. -/
def raise (n : Name) (g : Given) : Except Stop Given :=
  match n with
  | .help => .error .help
  | .version => .error .version
  | .noCollect => if g.noCollect then .error (.repeated n) else .ok { g with noCollect := true }
  | _ => .ok g

/-- The option whose value is still to be looked at. -/
inductive Pending where
  | idle
  | wanting (n : Name)
  | holding (n : Name) (value : String)

def resolve : Pending → Given → Except Stop Given
  | .idle, g => .ok g
  | .wanting n, _ => .error (.valueless n)
  | .holding n value, g => give n value g

/-- An option with the value behind its equals sign, if there is one. -/
def option (n : Name) (attached : Option String) (p : Pending) (g : Given) :
    Except Stop (Pending × Given) :=
  match n.placeholder?, attached with
  | some _, some value => do return (.idle, ← give n value (← resolve p g))
  | some _, none => do return (.wanting n, ← resolve p g)
  | none, some value => .error (.superfluous n value)
  | none, none => do return (.idle, ← raise n (← resolve p g))

/-- An option by its long name. -/
def longOption (cs : List Char) (p : Pending) (g : Given) : Except Stop (Pending × Given) :=
  let name := String.ofList (cs.takeWhile (· ≠ '='))
  let attached := match cs.dropWhile (· ≠ '=') with
    | [] => none
    | _ :: value => some (String.ofList value)
  match Name.all.find? fun n => n.long == name with
  | none => .error (.unexpected ("--" ++ name))
  | some n => option n attached p g

/-- Options by their short names. What follows one that has a value is its value. -/
def shortOptions : List Char → Pending → Given → Except Stop (Pending × Given)
  | [], p, g => .ok (p, g)
  | c :: r, p, g =>
    match Name.all.find? fun n => n.short? == some c with
    | none => .error (.unexpected (String.ofList ['-', c]))
    | some n =>
      match n.placeholder?, r with
      | none, r => do
        let (p, g) ← option n none p g
        shortOptions r p g
      | some _, [] => option n none p g
      | some _, '=' :: value => option n (some (String.ofList value)) p g
      | some _, value => option n (some (String.ofList value)) p g

/-- Reads the words of a command line. -/
def read : List String → Pending → Given → Except Stop Given
  | [], p, g => resolve p g
  | word :: words, p, g =>
    match word.toList with
    | ['-', '-'] =>
      match words with
      | [] => resolve p g
      | next :: _ => .error (.unexpected next)
    | '-' :: '-' :: name => do
      let (p, g) ← longOption name p g
      read words p g
    | '-' :: c :: r => do
      let (p, g) ← shortOptions (c :: r) p g
      read words p g
    | _ =>
      match p with
      | .wanting n => read words (.holding n word) g
      | _ => .error (.unexpected word)

def deploymentVariable : String := "NETPULSE_ENV"

/-- The options of a command line; the deployment may also come from a variable. -/
def parse (environment : Table String) (words : List String) : Except Stop Options := do
  let g ← read words .idle nothing
  match g.device with
  | none => .error .missing
  | some device =>
    return {
      device
      vendor := g.vendor.getD ""
      deployment :=
        (g.deployment.or (Table.lookup deploymentVariable environment)).getD "development"
      noCollect := g.noCollect
      reportInterval := g.reportInterval.getD 30 }

def versionText : String := "netpulse 0.1.0"

def helpText (environment : Table String) : String :=
  "\n".intercalate
    ["NetPulse: live device telemetry",
      "",
      "Usage: netpulse [OPTIONS] --device <DEVICE>",
      "",
      "Options:",
      "  -d, --device <DEVICE>",
      "          Device to stream",
      "      --vendor <VENDOR>",
      "          Vendor sent with the subscription (defaults to \x60channel.vendor\x60) " ++
        "[default: ]",
      "  -e, --env <ENV>",
      "          Configuration environment overlay (\x60config/\x7benv\x7d.toml\x60) [env: " ++
        deploymentVariable ++ "=" ++ (Table.lookup deploymentVariable environment).getD "" ++
        "] [default: development]",
      "      --no-collect",
      "          Do not start or stop server-side collection",
      "      --report-interval <REPORT_INTERVAL>",
      "          Seconds between status reports [default: 30]",
      "  -h, --help",
      "          Print help",
      "  -V, --version",
      "          Print version"]

example : (parse [] ["-dr1", "--report-interval=5"]).toOption =
    some ⟨"r1", "", "development", false, 5⟩ := by decide +kernel

example : (match parse [] ["-d", "-e", "x"] with
    | .error s => s
    | .ok _ => .help) = .valueless .device := by decide +kernel

end Options
end LiveTelemetry
