import LiveTelemetry.Schema.Field
import LiveTelemetry.Settings.Path
import LiveTelemetry.Text.Lower

/-!
Reading settings by a schema. Scalars are converted where there is a sensible way, as from text to
numbers and back; a list stands for a record by position.
-/
namespace LiveTelemetry

/-- What is wrong with a setting, where it is and where it comes from. -/
structure Setting.Fault where
  mismatch : Mismatch
  path : List Setting.Step
  origin : Option Setting.Origin
  deriving DecidableEq

namespace Setting

def wording : Wording := ⟨"unit value", .pointed⟩

def Fault.message (f : Fault) : String :=
  f.mismatch.describe wording ++
    (if f.path = [] then "" else " for key \x60" ++ Step.pathText f.path ++ "\x60") ++
    (match f.origin with
      | none => ""
      | some o => " in " ++ o.text)

def Scalar.found : Scalar → Found
  | null => .null
  | flag b => .flag b
  | integer n => .integer n
  | real x => .real x
  | text s => .text s

def found : Setting → Found
  | scalar s _ => s.found
  | list _ _ => .list
  | table _ _ => .table

def origin : Setting → Option Origin
  | scalar _ o => o
  | list _ o => o
  | table _ o => o

/-- Names the entry in which a fault lies. -/
def Fault.inside (s : Step) (f : Fault) : Fault := { f with path := s :: f.path }

end Setting

namespace Schema

abbrev SettingReader := Setting → Except Setting.Fault Datum

/-- A setting that cannot be converted. -/
def unconverted {α : Type} (found : Found) (wanted : String) (o : Option Setting.Origin) :
    Except Setting.Fault α :=
  .error ⟨.type found wanted, [], o⟩

/-- A setting of the wrong form. -/
def misshapen {α : Type} (m : Mismatch) : Except Setting.Fault α := .error ⟨m, [], none⟩

def settingText : SettingReader
  | .scalar (.text s) _ => .ok (.text s)
  | .scalar (.flag b) _ => .ok (.text (toString b))
  | .scalar (.integer n) _ => .ok (.text (toString n))
  | .scalar (.real x) _ => .ok (.text (Layout.running.render x))
  | s => unconverted s.found "a string" s.origin

def flagOfText? (s : String) : Option Bool :=
  if ["true", "on", "yes"].contains s then some true
  else if ["false", "off", "no"].contains s then some false
  else none

def settingFlag : SettingReader
  | .scalar (.flag b) _ => .ok (.flag b)
  | .scalar (.integer n) _ => .ok (.flag (n != 0))
  | .scalar (.real x) _ => .ok (.flag (!x.isZero))
  | .scalar (.text s) o =>
    let s := Text.lower s
    if s = "1" then .ok (.flag true)
    else if s = "0" then .ok (.flag false)
    else match flagOfText? s with
      | some b => .ok (.flag b)
      | none => unconverted (.text s) "a boolean" o
  | s => unconverted s.found "a boolean" s.origin

/-- Reads a word without a sign of at most 64 bits. -/
def settingWord (high : Int) : SettingReader
  | .scalar (.flag b) _ => .ok (.integer (if b then 1 else 0))
  | .scalar (.integer n) o =>
    if 0 ≤ n ∧ n ≤ high then .ok (.integer n)
    else unconverted (.word n) "an unsigned 64 bit or less integer" o
  | .scalar (.real x) _ => .ok (.integer x.toUInt64Clamped.toNat)
  | .scalar (.text s) o =>
    match flagOfText? (Text.lower s), Numeral.natural? s.toList with
    | some b, _ => .ok (.integer (if b then 1 else 0))
    | none, some n =>
      if n ≤ high then .ok (.integer n) else unconverted (.text s) "an integer" o
    | none, none => unconverted (.text s) "an integer" o
  | s => unconverted s.found "an integer" s.origin

def settingChoice (name : String) (tags : List String) : SettingReader := fun s =>
  let pick (tag : String) : Except Setting.Fault Datum :=
    if tags.contains tag then .ok (.choice tag)
    else misshapen (.other s!"enum {name} does not have variant constructor {tag}")
  match s with
  | .scalar (.text tag) _ => pick tag
  | .table [(tag, _)] _ => pick tag
  | _ =>
    misshapen (.other (s!"value of enum {name} should be represented by either string or table " ++
      "with exactly one key"))

def inside {α : Type} (s : Setting.Step) : Except Setting.Fault α → Except Setting.Fault α
  | .ok a => .ok a
  | .error f => .error (f.inside s)

def settingEntries (fields : List (Field SettingReader)) :
    List (String × Datum) → List (String × Setting) → Except Setting.Fault (List (String × Datum))
  | found, [] =>
    match assemble found.reverse fields with
    | .ok ds => .ok ds
    | .error m => misshapen m
  | found, (k, v) :: r =>
    match findField k fields with
    | none => settingEntries fields found r
    | some f =>
      match inside (.key k) (f.read v) with
      | .error e => .error e
      | .ok d => settingEntries fields ((k, d) :: found) r

/-- Items beyond the last field do not count. -/
def settingItems (name : String) (total : Nat) :
    Nat → List (Field SettingReader) → List Setting → Except Setting.Fault (List (String × Datum))
  | index, fs, [] =>
    match fill name total index fs with
    | .ok ds => .ok ds
    | .error m => misshapen m
  | _, [], _ :: _ => .ok []
  | index, f :: fs, v :: vs =>
    match inside (.index index) (f.read v) with
    | .error e => .error e
    | .ok d => (settingItems name total (index + 1) fs vs).map ((f.name, d) :: ·)

def settingRecord (name : String) (fields : List (Field SettingReader)) : SettingReader
  | .table es _ => (settingEntries fields [] es).map .record
  | .list vs _ => (settingItems name fields.length 0 fields vs).map .record
  | s => misshapen (.type s.found s!"struct {name}")

def settingSeries (read : SettingReader) : Nat → List Setting → Except Setting.Fault (List Datum)
  | _, [] => .ok []
  | index, v :: vs =>
    match inside (.index index) (read v) with
    | .error e => .error e
    | .ok d => (settingSeries read (index + 1) vs).map (d :: ·)

def settingTable (read : SettingReader) :
    List (String × Setting) → Except Setting.Fault (List (String × Datum))
  | [] => .ok []
  | (k, v) :: r =>
    match inside (.key k) (read v) with
    | .error e => .error e
    | .ok d => (settingTable read r).map ((k, d) :: ·)

mutual

def ofSetting : Schema → SettingReader
  | text, s => settingText s
  | flag, s => settingFlag s
  | word _ _ high, s => settingWord high s
  | choice name tags, s => settingChoice name tags s
  | optional _, .scalar .null _ => .ok .absent
  | optional item, s => (ofSetting item s).map .present
  | series item, .list vs _ => (settingSeries (ofSetting item) 0 vs).map .series
  | series _, s => misshapen (.type s.found "a sequence")
  | table item, .table es _ => (settingTable (ofSetting item) es).map .table
  | table _, s => misshapen (.type s.found "a map")
  | record name fields, s => settingRecord name (settingFields fields) s
  | measurement, _ => misshapen measurementMismatch
  | instant, s =>
    match settingText s with
    | .ok (.text t) =>
      match instantDatum t with
      | .ok d => .ok d
      | .error m => misshapen m
    | r => r

def settingFields : List (String × Schema × Option Datum) → List (Field SettingReader)
  | [] => []
  | (name, s, default) :: r => ⟨name, ofSetting s, absence s default, default⟩ :: settingFields r

end

end Schema

namespace Codec

/-- Reads a value from settings. -/
def ofSetting {α : Type} (c : Codec α) (s : Setting) : Except Setting.Fault α :=
  match c.schema.ofSetting s with
  | .error f => .error f
  | .ok d => match c.ofDatum? d with
    | some a => .ok a
    | none => Schema.misshapen (.other "unreadable")

end Codec
end LiveTelemetry
