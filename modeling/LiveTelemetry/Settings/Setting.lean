import LiveTelemetry.Json.Basic
import LiveTelemetry.Toml.Basic

/-!
Settings as they are found in files and variables, each with its origin, and how one source is
laid over another: tables entry by entry, all else as a whole.
-/
namespace LiveTelemetry

inductive Setting.Origin where
  | file (path : String)
  | environment
  deriving DecidableEq

inductive Setting.Scalar where
  | null
  | flag (b : Bool)
  | integer (n : Int)
  | real (x : Binary64)
  | text (s : String)
  deriving DecidableEq

inductive Setting where
  | scalar (value : Setting.Scalar) (origin : Option Setting.Origin)
  | list (items : List Setting) (origin : Option Setting.Origin)
  | table (entries : List (String × Setting)) (origin : Option Setting.Origin)

namespace Setting

def Origin.text : Origin → String
  | file path => path
  | environment => "the environment"

def null : Setting := scalar .null none

/-- The entries of a table. Anything else has none. -/
def entries : Setting → Table Setting
  | table es _ => es
  | _ => []

def tableOrigin : Setting → Option Origin
  | table _ o => o
  | _ => none

def items : Setting → List Setting
  | list xs _ => xs
  | _ => []

def listOrigin : Setting → Option Origin
  | list _ o => o
  | _ => none

/-- The entry of a table, or nothing if it is missing. -/
def entry (key : String) (es : Table Setting) : Setting := (Table.lookup key es).getD null

mutual

/-- Lays the first setting over the second one. -/
def layOver : Setting → Setting → Setting
  | table es _, old => table (layEntriesOver es old.entries) old.tableOrigin
  | list xs o, _ => list xs o
  | scalar s o, _ => scalar s o

def layEntriesOver : List (String × Setting) → Table Setting → Table Setting
  | [], t => t
  | (key, v) :: r, t => layEntriesOver r (Table.put key (layOver v (entry key t)) t)

end

@[simp] theorem layOver_scalar (s : Scalar) (o : Option Origin) (old : Setting) :
    layOver (scalar s o) old = scalar s o := by
  simp [layOver]

@[simp] theorem layOver_list (xs : List Setting) (o : Option Origin) (old : Setting) :
    layOver (list xs o) old = list xs o := by
  simp [layOver]

mutual

def ofToml (o : Option Origin) : Toml → Setting
  | .text s => scalar (.text s) o
  | .integer n => scalar (.integer n) o
  | .real x => scalar (.real x) o
  | .flag b => scalar (.flag b) o
  | .moment s => scalar (.text s) none
  | .list xs => list (ofTomlItems o xs) o
  | .table es => table (ofTomlEntries o es) o

def ofTomlItems (o : Option Origin) : List Toml → List Setting
  | [] => []
  | x :: xs => ofToml o x :: ofTomlItems o xs

def ofTomlEntries (o : Option Origin) : List (String × Toml) → List (String × Setting)
  | [] => []
  | (k, x) :: r => (k, ofToml o x) :: ofTomlEntries o r

end

/-- Integers beyond 64 bits with a sign are kept as real numbers. -/
def ofNumber : Json.Number → Scalar
  | .integer n => if n < 0x8000000000000000 then .integer n else .real (.ofInt n)
  | .real x => .real x

mutual

def ofJson (o : Option Origin) : Json → Setting
  | .null => scalar .null o
  | .flag b => scalar (.flag b) o
  | .number n => scalar (ofNumber n) o
  | .text s => scalar (.text s) o
  | .list xs => list (ofJsonItems o xs) o
  | .object es => table (ofJsonEntries o es) o

def ofJsonItems (o : Option Origin) : List Json → List Setting
  | [] => []
  | x :: xs => ofJson o x :: ofJsonItems o xs

def ofJsonEntries (o : Option Origin) : List (String × Json) → List (String × Setting)
  | [] => []
  | (k, x) :: r => (k, ofJson o x) :: ofJsonEntries o r

end

end Setting
end LiveTelemetry
