import LiveTelemetry.Number.Layout
import LiveTelemetry.Text.Quoted

/-!
Mismatches between a value and the shape that is wanted of it, and their wording.
-/
namespace LiveTelemetry

/-- What stood where something else was wanted. -/
inductive Found where
  | null
  | flag (b : Bool)
  | integer (n : Int)
  /-- An integer that is too large or too small. -/
  | word (n : Int)
  | real (x : Binary64)
  | text (s : String)
  | list
  | table
  deriving DecidableEq

/-- The two spellings in which sources of values differ. -/
structure Wording where
  null : String
  real : Layout

def Found.describe (w : Wording) : Found → String
  | null => w.null
  | flag b => s!"boolean `{b}`"
  | integer n => s!"integer `{n}`"
  | word n => s!"64-bit integer `{n}`"
  | real x => s!"floating point `{w.real.render x}`"
  | text s => "string " ++ Text.quoted s
  | list => "sequence"
  | table => "map"

inductive Mismatch where
  | type (found : Found) (wanted : String)
  | value (found : Found) (wanted : String)
  | length (n : Nat) (wanted : String)
  | choice (name : String) (known : List String)
  | missing (name : String)
  | duplicate (name : String)
  | other (text : String)
  deriving DecidableEq

namespace Mismatch

def alternatives (names : List String) : String :=
  match names.map fun n => s!"`{n}`" with
  | [a] => a
  | [a, b] => a ++ " or " ++ b
  | names => "one of " ++ ", ".intercalate names

def describe (w : Wording) : Mismatch → String
  | type found wanted => s!"invalid type: {found.describe w}, expected {wanted}"
  | value found wanted => s!"invalid value: {found.describe w}, expected {wanted}"
  | length n wanted => s!"invalid length {n}, expected {wanted}"
  | choice name known => s!"unknown variant `{name}`, expected {alternatives known}"
  | missing name => s!"missing field `{name}`"
  | duplicate name => s!"duplicate field `{name}`"
  | other text => text

end Mismatch
end LiveTelemetry
