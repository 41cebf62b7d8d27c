import LiveTelemetry.Schema.Basic

/-!
Fields of records, for any way of reading them: which field a name belongs to, and how the fields
that were found make up the record.
-/
namespace LiveTelemetry.Schema

/-- A field with the reader of its value. -/
structure Field (ρ : Type) where
  name : String
  read : ρ
  /-- Stands for the field when an object lacks it. -/
  absence : Option Datum
  /-- Stands for the field when a list is too short. -/
  default : Option Datum

variable {ρ : Type}

def findField (name : String) (fields : List (Field ρ)) : Option (Field ρ) :=
  fields.find? fun f => f.name == name

/-- The record of the fields that were found, in the order of declaration. -/
def assemble (found : List (String × Datum)) :
    List (Field ρ) → Except Mismatch (List (String × Datum))
  | [] => .ok []
  | f :: fs =>
    match (found.lookup f.name).or f.absence with
    | none => .error (.missing f.name)
    | some d => (assemble found fs).map ((f.name, d) :: ·)

/-- What a list must hold to stand for a record. -/
def lengthText (name : String) (n : Nat) : String :=
  s!"struct {name} with {n} " ++ if n = 1 then "element" else "elements"

/-- Fills up a record from the defaults of the fields that a list was too short for; `index`
counts the fields before. -/
def fill (name : String) (total : Nat) :
    Nat → List (Field ρ) → Except Mismatch (List (String × Datum))
  | _, [] => .ok []
  | index, f :: fs =>
    match f.default with
    | none => .error (.length index (lengthText name total))
    | some d => (fill name total (index + 1) fs).map ((f.name, d) :: ·)

def instantText : String := "an RFC 3339 formatted date and time string"

def instantDatum (s : String) : Except Mismatch Datum :=
  match Instant.parse s with
  | .ok t => .ok (.instant t)
  | .error f => .error (.other f.message)

def measurementMismatch : Mismatch :=
  .other "data did not match any variant of untagged enum MetricValue"

def measurementDatum (j : Json) : Except Mismatch Datum :=
  match Measurement.ofJson? j with
  | some m => .ok (.measurement m)
  | none => .error measurementMismatch

/-- An integer of a word that is wanted in a range. -/
def wordDatum (name : String) (low high n : Int) : Except Mismatch Datum :=
  if low ≤ n ∧ n ≤ high then .ok (.integer n) else .error (.value (.integer n) name)

def choiceDatum (tags : List String) (tag : String) : Except Mismatch Datum :=
  if tags.contains tag then .ok (.choice tag) else .error (.choice tag tags)

end LiveTelemetry.Schema
