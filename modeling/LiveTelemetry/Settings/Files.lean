import LiveTelemetry.Json.Reader
import LiveTelemetry.Settings.Setting
import LiveTelemetry.Text.Parts
import LiveTelemetry.Toml.Document

/-!
Settings from files. A file is looked up by its name in the directory `config`, as it stands or
with the extension of a format.

The formats are TOML and JSON. Settings may be kept in YAML, INI, RON and JSON5 as well; these are
left out, and the directory is taken to hold no files with their extensions.
-/
namespace LiveTelemetry.Setting

/-- The formats that are read. -/
inductive Format where
  | toml
  | json
  deriving DecidableEq

namespace Format

def extension : Format → String
  | toml => ".toml"
  | json => ".json"

def ofName? (name : String) : Option Format :=
  if name.endsWith toml.extension then some toml
  else if name.endsWith json.extension then some json
  else none

end Format

/-- The entries of a file's content; `none` when it is malformed. -/
def readEntries? (f : Format) (o : Option Origin) (content : String) :
    Option (List (String × Setting)) :=
  match f with
  | .toml => (Toml.parse? content).map (ofTomlEntries o)
  | .json => match Json.parse content with
    | .ok (.object es) => some (ofJsonEntries o es)
    | _ => none

def directory : String := "config"

/-- The parts of a path; empty ones and single points do not count. -/
def pathParts (path : String) : List String := (Text.parts '/' path).filter (· ≠ ".")

/-- Follows a path from the directory above. No other directory exists. -/
def follow : List String → List String → Option (List String)
  | here, [] => some here
  | here, p :: ps =>
    if p = ".." then if here = [directory] then follow [] ps else none
    else follow (p :: here) ps

/-- The name of a file in the directory that a path leads to. -/
def fileName? (path : List String) : Option String :=
  match follow [] path with
  | some [name, d] => if d = directory then some name else none
  | _ => none

/-- A file that was found: its format, where it lies, and its content. -/
structure FoundFile where
  format : Format
  path : String
  content : String

/-- Looks up a file by its name, with or without the extension of a format that is read. A name as it
stands comes first, then TOML. -/
def find? (name : String) (files : Table String) : Option FoundFile :=
  let parts := directory :: pathParts name
  let path := "/".intercalate parts
  match fileName? parts with
  | none => none
  | some n =>
    let exact := if name.endsWith "/" || name.endsWith "/." then none else Table.lookup n files
    match exact, Format.ofName? n with
    | some content, some f => some ⟨f, path, content⟩
    | some _, none => none
    | none, _ => [Format.toml, .json].findSome? fun f =>
        (Table.lookup (n ++ f.extension) files).map fun c => ⟨f, path ++ f.extension, c⟩

/-- The entries of a file. One that is missing counts as empty, and a malformed one is none. -/
def ofFile? (name : String) (files : Table String) : Option (List (String × Setting)) :=
  match find? name files with
  | none => some []
  | some f => readEntries? f.format (some (.file f.path)) f.content

/-- The files among which a name is looked up. -/
def candidates (name : String) : List String :=
  match fileName? (directory :: pathParts name) with
  | none => []
  | some n => n :: [Format.toml, .json].map fun f => n ++ f.extension

end LiveTelemetry.Setting
