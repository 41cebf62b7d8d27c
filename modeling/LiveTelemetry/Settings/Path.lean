import LiveTelemetry.Number.Numeral
import LiveTelemetry.Settings.Setting

/-!
Paths to settings: a name, then names behind dots and positions in brackets. A key of a source
that can be read as a path stands for the place it leads to.
-/
namespace LiveTelemetry.Setting

inductive Step where
  | key (name : String)
  /-- A position from the start, or from the end if it is negative. -/
  | index (i : Int)
  deriving DecidableEq

namespace Step

/-- A path as it is written. -/
def pathText : List Step → String
  | [] => ""
  | [key name] => name
  | [index i] => s!"[{i}]"
  | key name :: key next :: r => name ++ "." ++ pathText (key next :: r)
  | key name :: r => name ++ pathText r
  | index i :: key next :: r => s!"[{i}]." ++ pathText (key next :: r)
  | index i :: r => s!"[{i}]" ++ pathText r

def isNameChar (c : Char) : Bool := c.isAlphanum || c == '_' || c == '-'

/-- A name with at least one character, and what follows. -/
def name? (cs : List Char) : Option (String × List Char) :=
  match cs.takeWhile isNameChar with
  | [] => none
  | n => some (String.ofList n, cs.dropWhile isNameChar)

/-- A position behind its bracket. -/
def position? (cs : List Char) : Option (Int × List Char) :=
  let digits := cs.takeWhile (· ≠ ']')
  match digits, cs.dropWhile (· ≠ ']') with
  | '+' :: _, _ => none
  | _, _ :: r => (Numeral.integer? digits).map (·, r)
  | _, [] => none

def steps? : Nat → List Char → Option (List Step)
  | _, [] => some []
  | 0, _ => none
  | n + 1, '.' :: cs =>
    match name? cs with
    | none => none
    | some (k, r) => (steps? n r).map (key k :: ·)
  | n + 1, '[' :: cs =>
    match position? cs with
    | none => none
    | some (i, r) => (steps? n r).map (index i :: ·)
  | _, _ => none

/-- The path that a key of a source stands for: its first name, and the steps from there. -/
def ofKey (key : String) : String × List Step :=
  match name? key.toList with
  | none => (key, [])
  | some (first, r) =>
    match steps? key.length r with
    | none => (key, [])
    | some steps => (first, steps)

end Step

/-- Replaces the setting at a position. The list is filled up where it is too short. -/
def atIndex (i : Int) (f : Setting → Setting) (xs : List Setting) : List Setting :=
  let short := if 0 ≤ i then 0 else i.natAbs - xs.length
  let xs := List.replicate short null ++ xs
  let n := if 0 ≤ i then i.toNat else xs.length - i.natAbs
  let xs := xs ++ List.replicate (n + 1 - xs.length) null
  xs.modify n f

/-- Lays `v` over the setting that the steps lead to. Whatever stands in the way gives way. -/
def place (v : Setting) : List Step → Setting → Setting
  | [], old => v.layOver old
  | .key k :: r, old =>
    table (Table.put k (place v r (entry k old.entries)) old.entries) old.tableOrigin
  | .index i :: r, old => list (atIndex i (place v r) old.items) old.listOrigin

/-- Sets what a key of a source stands for. -/
def assign (key : String) (v : Setting) (t : Table Setting) : Table Setting :=
  let (first, steps) := Step.ofKey key
  Table.put first (place v steps (entry first t)) t

/-- Lays the entries of a source over a table. -/
def layer (source : List (String × Setting)) (t : Table Setting) : Table Setting :=
  source.foldl (fun t (key, v) => assign key v t) t

example : Step.ofKey "channel.items[-1]" = ("channel", [.key "items", .index (-1)]) := by
  decide +kernel
example : Step.ofKey "channel..url" = ("channel..url", []) := by decide +kernel

end LiveTelemetry.Setting
