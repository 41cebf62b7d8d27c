import LiveTelemetry.Schema.OfSetting
import LiveTelemetry.Settings.Basic
import LiveTelemetry.Settings.Files
import LiveTelemetry.Settings.Variables

/-!
Loading the settings: the default file, the file of the deployment over it, and variables over
both. What no source sets keeps its default, and the result is checked.
-/
namespace LiveTelemetry.Settings

inductive Fault where
  /-- A source is no document of its format. -/
  | malformed
  | setting (f : Setting.Fault)
  | defect (d : Defect)
  deriving DecidableEq

/-- Stands for the description of a malformed source. -/
def malformedText : String := "<syntax>"

namespace Fault

/-- The failure of reading one document. -/
def ofDocument : Fault → Failure
  | malformed => .configuration malformedText
  | setting f => .ofSetting f.message
  | defect d => .configuration d.message

/-- The failure of loading all sources. -/
def ofLoading : Fault → Failure
  | malformed => .configuration ("Failed to build config: " ++ malformedText)
  | setting f => .configuration ("Failed to deserialize config: " ++ f.message)
  | defect d => .configuration d.message

end Fault

/-- The settings of a table, if they can be used. -/
def ofTable (t : Table Setting) : Except Fault Settings :=
  match codec.ofSetting (.table t none) with
  | .error f => .error (.setting f)
  | .ok s => match s.check with
    | .error d => .error (.defect d)
    | .ok () => .ok s

/-- Reads settings from a single document. -/
def parse (document : String) : Except Fault Settings :=
  match Setting.readEntries? .toml none document with
  | none => .error .malformed
  | some es => ofTable (Setting.layer es [])

/-- Where settings come from. -/
structure Sources where
  /-- The contents of the files in the settings directory, by name. -/
  files : Table String
  environment : List (String × String)

/-- The name of the file whose settings hold in every deployment. -/
def baseName : String := "default"

/-- Lays the sources over each other. -/
def Sources.merge? (s : Sources) (deployment : String) : Option (Table Setting) := do
  let base ← Setting.ofFile? baseName s.files
  let overlay ← Setting.ofFile? deployment s.files
  let files := Setting.layer overlay (Setting.layer base [])
  return Setting.layer (Setting.ofVariables s.environment) files

/-- Loads the settings of a deployment. -/
def load (s : Sources) (deployment : String) : Except Fault Settings :=
  match s.merge? deployment with
  | none => .error .malformed
  | some t => ofTable t

/-- The names of the files that may count for a deployment. -/
def fileNames (deployment : String) : List String :=
  Setting.candidates baseName ++ Setting.candidates deployment

theorem check_of_ofTable {t : Table Setting} {s : Settings} (h : ofTable t = .ok s) :
    s.check = .ok () := by
  unfold ofTable at h
  split at h
  · cases h
  · split at h
    · cases h
    · cases h
      assumption

/-- What is loaded can be used. -/
theorem check_of_load {src : Sources} {d : String} {s : Settings} (h : load src d = .ok s) :
    s.check = .ok () := by
  unfold load at h
  split at h
  · cases h
  · exact check_of_ofTable h

theorem check_of_parse {document : String} {s : Settings} (h : parse document = .ok s) :
    s.check = .ok () := by
  unfold parse at h
  split at h
  · cases h
  · exact check_of_ofTable h

end LiveTelemetry.Settings
