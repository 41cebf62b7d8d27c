import LiveTelemetry.Json.Printer

/-!
Measured values: a number, a text, or a list of JSON values.
-/
namespace LiveTelemetry

inductive Measurement where
  | number (x : Binary64)
  | text (s : String)
  | list (items : List Json)

namespace Measurement

def toJson : Measurement → Json
  | number x => .number (.real x)
  | text s => .text s
  | list items => .list items

/-- Integers become their nearest floating-point numbers; flags, objects and nulls are no measured
values. -/
def ofJson? : Json → Option Measurement
  | .number n => some (number n.toBinary64)
  | .text s => some (text s)
  | .list items => some (list items)
  | _ => none

/-- Equality of values: `0.0` and `-0.0` are one number, and items of lists are compared as JSON. -/
def same : Measurement → Measurement → Bool
  | number x, number y => x.same y
  | text s, text t => s == t
  | list xs, list ys => Json.sameItems xs ys
  | _, _ => false

def isNumber : Measurement → Bool
  | number _ => true
  | _ => false

end Measurement
end LiveTelemetry
