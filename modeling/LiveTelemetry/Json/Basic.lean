import LiveTelemetry.Number.Layout
import LiveTelemetry.Table

/-!
JSON values. Integers and floating-point numbers are kept apart, and the fields of an object are a
table. Equality of values compares numbers of one kind by value, so the two zeros are the same
number but `1` and `1.0` are not.
-/
namespace LiveTelemetry

inductive Json.Number where
  | integer (n : Int)
  | real (x : Binary64)
  deriving DecidableEq

inductive Json where
  | null
  | flag (b : Bool)
  | number (n : Json.Number)
  | text (s : String)
  | list (items : List Json)
  | object (fields : List (String × Json))

namespace Json

namespace Number

def same : Number → Number → Bool
  | integer m, integer n => m == n
  | real x, real y => x.same y
  | _, _ => false

def toBinary64 : Number → Binary64
  | integer n => .ofInt n
  | real x => x

def render : Number → String
  | integer n => toString n
  | real x => Layout.json.render x

end Number

mutual

def same : Json → Json → Bool
  | null, null => true
  | flag a, flag b => a == b
  | number m, number n => m.same n
  | text s, text t => s == t
  | list xs, list ys => sameItems xs ys
  | object fs, object gs => sameFields fs gs
  | _, _ => false

def sameItems : List Json → List Json → Bool
  | [], [] => true
  | x :: xs, y :: ys => same x y && sameItems xs ys
  | _, _ => false

def sameFields : List (String × Json) → List (String × Json) → Bool
  | [], [] => true
  | (k, v) :: fs, (l, w) :: gs => k == l && same v w && sameFields fs gs
  | _, _ => false

end

/-- An object from fields in any order; of two fields with one name the later one counts. -/
def ofFields (fields : List (String × Json)) : Json := object (Table.ofList fields)

def field? (name : String) : Json → Option Json
  | object fields => Table.lookup name fields
  | _ => none

def text? : Json → Option String
  | text s => some s
  | _ => none

def integer? : Json → Option Int
  | number (.integer n) => some n
  | _ => none

def ofNat (n : Nat) : Json := number (.integer n)

def ofOption {α : Type} (f : α → Json) : Option α → Json
  | none => null
  | some a => f a

end Json
end LiveTelemetry
