import LiveTelemetry.Schema.Field

/-!
Reading JSON values by a schema. Unknown fields are ignored; fields are read in the order of their
names, and the first mismatch is reported.
-/
namespace LiveTelemetry

def Json.found : Json → Found
  | null => .null
  | flag b => .flag b
  | number (.integer n) => .integer n
  | number (.real x) => .real x
  | text s => .text s
  | list _ => .list
  | object _ => .table

namespace Schema

abbrev JsonReader := Json → Except Mismatch Datum

def wrong {α : Type} (wanted : String) (j : Json) : Except Mismatch α :=
  .error (.type j.found wanted)

def readFields (fields : List (Field JsonReader)) :
    List (String × Datum) → List (String × Json) → Except Mismatch (List (String × Datum))
  | found, [] => assemble found.reverse fields
  | found, (k, v) :: r =>
    match findField k fields with
    | none => readFields fields found r
    | some f =>
      match f.read v with
      | .error m => .error m
      | .ok d => readFields fields ((k, d) :: found) r

/-- Reads the fields of a record from items in the order of declaration. -/
def readItems (name : String) (total size : Nat) : Nat → List (Field JsonReader) → List Json →
    Except Mismatch (List (String × Datum))
  | index, fs, [] => fill name total index fs
  | _, [], _ :: _ => .error (.length size "fewer elements in array")
  | index, f :: fs, j :: js =>
    match f.read j with
    | .error m => .error m
    | .ok d => (readItems name total size (index + 1) fs js).map ((f.name, d) :: ·)

def readRecord (name : String) (fields : List (Field JsonReader)) : JsonReader
  | .object entries => (readFields fields [] entries).map .record
  | .list items => (readItems name fields.length items.length 0 fields items).map .record
  | j => wrong s!"struct {name}" j

def readChoice (tags : List String) : JsonReader
  | .text s => choiceDatum tags s
  | .object [(k, v)] =>
    match choiceDatum tags k with
    | .error m => .error m
    | .ok d => match v with
      | .null => .ok d
      | v => wrong "unit" v
  | .object _ => .error (.value .table "map with a single key")
  | j => wrong "string or map" j

def readEntries (read : JsonReader) :
    List (String × Json) → Except Mismatch (List (String × Datum))
  | [] => .ok []
  | (k, v) :: r =>
    match read v with
    | .error m => .error m
    | .ok d => (readEntries read r).map ((k, d) :: ·)

def readSeries (read : JsonReader) : List Json → Except Mismatch (List Datum)
  | [] => .ok []
  | v :: r =>
    match read v with
    | .error m => .error m
    | .ok d => (readSeries read r).map (d :: ·)

mutual

def ofJson : Schema → JsonReader
  | text, .text s => .ok (.text s)
  | text, j => wrong "a string" j
  | flag, .flag b => .ok (.flag b)
  | flag, j => wrong "a boolean" j
  | word name low high, .number (.integer n) => wordDatum name low high n
  | word name _ _, j => wrong name j
  | choice _ tags, j => readChoice tags j
  | optional _, .null => .ok .absent
  | optional item, j => (ofJson item j).map .present
  | series item, .list js => (readSeries (ofJson item) js).map .series
  | series _, j => wrong "a sequence" j
  | table item, .object fs => (readEntries (ofJson item) fs).map .table
  | table _, j => wrong "a map" j
  | record name fields, j => readRecord name (jsonFields fields) j
  | measurement, j => measurementDatum j
  | instant, .text s => instantDatum s
  | instant, j => wrong instantText j

def jsonFields : List (String × Schema × Option Datum) → List (Field JsonReader)
  | [] => []
  | (name, s, default) :: r => ⟨name, ofJson s, absence s default, default⟩ :: jsonFields r

end

end Schema

namespace Codec

/-- Reads a value from JSON that is no longer text. -/
def ofJson {α : Type} (c : Codec α) (j : Json) : Except Mismatch α :=
  match c.schema.ofJson j with
  | .error m => .error m
  | .ok d => match c.ofDatum? d with
    | some a => .ok a
    | none => .error (.other "unreadable")

end Codec
end LiveTelemetry
