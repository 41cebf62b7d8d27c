import LiveTelemetry.Number.Word
import LiveTelemetry.Settings.Path
import LiveTelemetry.Text.Lower

/-!
Settings from variables of the environment. Their names start with `NETPULSE__` in any case, and two
underscores lead one level down.
-/
namespace LiveTelemetry.Setting

def variableStart : List Char := "netpulse__".toList

/-- Writes a point for two underscores. -/
def dotted : List Char → List Char
  | '_' :: '_' :: r => '.' :: dotted r
  | c :: r => c :: dotted r
  | [] => []

/-- The key that a variable sets, if it sets one. -/
def variableKey? (name : String) : Option String :=
  let cs := name.toList.flatMap Text.lowerChar
  if variableStart.isPrefixOf cs then some (String.ofList (dotted (cs.drop variableStart.length)))
  else none

def integerInRange? (cs : List Char) : Option Int :=
  (Numeral.integer? cs).filter fitsInt64

/-- The value of a variable: a flag, an integer, a real number, or else text. -/
def variableValue (s : String) : Scalar :=
  if Text.lower s = "true" then .flag true
  else if Text.lower s = "false" then .flag false
  else match integerInRange? s.toList with
    | some n => .integer n
    | none => match Numeral.real? s.toList with
      | some x => .real x
      | none => .text s

/-- The settings of variables, in the order of the names. -/
def ofVariables (environment : List (String × String)) : List (String × Setting) :=
  (Table.ofList environment).filterMap fun (name, v) =>
    (variableKey? name).map (·, scalar (variableValue v) (some .environment))

example : variableKey? "NETPULSE__CHANNEL__AUTO_RECONNECT" = some "channel.auto_reconnect" := by
  decide +kernel
example : variableKey? "NETPULSE_CHANNEL__URL" = none := by decide +kernel
example : variableValue "0123" = .integer 123 ∧ variableValue "x" = .text "x" := by decide +kernel

end LiveTelemetry.Setting
