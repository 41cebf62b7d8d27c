import LiveTelemetry.Instant
import LiveTelemetry.Number.Word
import LiveTelemetry.Reading.Measurement
import LiveTelemetry.Schema.Mismatch

/-!
Shapes of data that is read from outside. A schema says what is wanted, a datum is what was read
in its terms, and a codec ties both to a type.
-/
namespace LiveTelemetry

inductive Datum where
  | text (s : String)
  | flag (b : Bool)
  | integer (n : Int)
  | choice (tag : String)
  | absent
  | present (d : Datum)
  | series (items : List Datum)
  | table (entries : List (String × Datum))
  | record (fields : List (String × Datum))
  | measurement (m : Measurement)
  | instant (t : Instant)

inductive Schema where
  | text
  | flag
  /-- Integers from `low` to `high`. -/
  | word (name : String) (low high : Int)
  /-- One of the given words. -/
  | choice (name : String) (tags : List String)
  | optional (item : Schema)
  | series (item : Schema)
  | table (item : Schema)
  /-- Named fields in order, each with the datum that stands for it when it is missing. -/
  | record (name : String) (fields : List (String × Schema × Option Datum))
  | measurement
  | instant

namespace Schema

def uint64 : Schema := word "u64" 0 (UInt64.size - 1)

def size : Schema := word "usize" 0 (UInt64.size - 1)

def uint32 : Schema := word "u32" 0 (UInt32.size - 1)

def int32 : Schema := word "i32" (-0x80000000) 0x7FFFFFFF

/-- A field that must be there, unless it is optional. -/
def required (name : String) (s : Schema) : String × Schema × Option Datum := (name, s, none)

def withDefault (name : String) (s : Schema) (d : Datum) : String × Schema × Option Datum :=
  (name, s, some d)

/-- What stands for a missing field of an object. -/
def absence (s : Schema) (default : Option Datum) : Option Datum :=
  match default, s with
  | some d, _ => some d
  | none, optional _ => some .absent
  | none, _ => none

end Schema

namespace Datum

mutual

def toJson : Datum → Json
  | text s => .text s
  | flag b => .flag b
  | integer n => .number (.integer n)
  | choice tag => .text tag
  | absent => .null
  | present d => toJson d
  | series items => .list (itemsJson items)
  | table entries => .ofFields (fieldsJson entries)
  | record fields => .ofFields (fieldsJson fields)
  | measurement m => m.toJson
  | instant t => .text t.render

def itemsJson : List Datum → List Json
  | [] => []
  | d :: ds => toJson d :: itemsJson ds

def fieldsJson : List (String × Datum) → List (String × Json)
  | [] => []
  | (k, d) :: ds => (k, toJson d) :: fieldsJson ds

end

def text? : Datum → Option String
  | text s => some s
  | _ => none

def flag? : Datum → Option Bool
  | flag b => some b
  | _ => none

def uint64? : Datum → Option UInt64
  | integer n => if 0 ≤ n ∧ n < UInt64.size then some (UInt64.ofNat n.toNat) else none
  | _ => none

def uint32? : Datum → Option UInt32
  | integer n => if 0 ≤ n ∧ n < UInt32.size then some (UInt32.ofNat n.toNat) else none
  | _ => none

def int32? : Datum → Option Int32
  | integer n => if fitsInt32 n then some (Int32.ofInt n) else none
  | _ => none

def optional? {α : Type} (f : Datum → Option α) : Datum → Option (Option α)
  | absent => some none
  | present d => (f d).map some
  | _ => none

def ofOption {α : Type} (f : α → Datum) : Option α → Datum
  | none => absent
  | some a => present (f a)

def ofOptionText : Option String → Datum := ofOption text

def ofUInt64 (n : UInt64) : Datum := integer n.toNat

def ofUInt32 (n : UInt32) : Datum := integer n.toNat

def ofInt32 (n : Int32) : Datum := integer n.toInt

end Datum

/-- Ties a type to the shape in which its values are written. -/
structure Codec (α : Type) where
  schema : Schema
  toDatum : α → Datum
  ofDatum? : Datum → Option α

namespace Codec

/-- Values of a codec print as the data they stand for. -/
def toJson {α : Type} (c : Codec α) (a : α) : Json := (c.toDatum a).toJson

end Codec
end LiveTelemetry
