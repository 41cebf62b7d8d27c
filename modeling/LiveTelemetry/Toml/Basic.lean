import LiveTelemetry.Number.Binary64
import LiveTelemetry.Table

/-!
Values of TOML documents, and the tables that a document builds up. A table may be filled only from
where it was made: by dotted keys while no header names it, by headers while none has closed it.
-/
namespace LiveTelemetry

inductive Toml where
  | text (s : String)
  | integer (n : Int)
  | real (x : Binary64)
  | flag (b : Bool)
  /-- A date, a time or both, in normal form. -/
  | moment (s : String)
  | list (items : List Toml)
  | table (entries : List (String × Toml))

namespace Toml

/-- How a table came to be. -/
inductive Made where
  /-- As the place of a table that a header names. -/
  | implied
  | dotted
  | headed
  deriving DecidableEq

/-- An entry of a document that is being built up. -/
inductive Node where
  | value (v : Toml)
  | table (made : Made) (entries : List (String × Node))
  /-- Tables that share a header, the newest one apart from the older ones. -/
  | tables (newest : List (String × Node)) (older : List (List (String × Node)))

abbrev Nodes := Table Node

namespace Nodes

/-- Adds an entry under a dotted key. -/
def addPair : List String → String → Toml → Nodes → Option Nodes
  | [], key, v, ns =>
    match Table.lookup key ns with
    | none => some (Table.put key (.value v) ns)
    | some _ => none
  | p :: ps, key, v, ns =>
    match Table.lookup p ns with
    | none => (addPair ps key v []).map fun sub => Table.put p (.table .dotted sub) ns
    | some (.table made sub) =>
      if made = .headed ∨ (ps = [] ∧ made ≠ .dotted) then none
      else (addPair ps key v sub).map fun sub => Table.put p (.table made sub) ns
    | some _ => none

/-- Changes the table of a header. -/
def within : List String → (Nodes → Option Nodes) → Nodes → Option Nodes
  | [], f, ns => f ns
  | p :: ps, f, ns =>
    match Table.lookup p ns with
    | none => (within ps f []).map fun sub => Table.put p (.table .implied sub) ns
    | some (.table made sub) => (within ps f sub).map fun sub => Table.put p (.table made sub) ns
    | some (.tables newest older) =>
      (within ps f newest).map fun sub => Table.put p (.tables sub older) ns
    | some (.value _) => none

/-- Opens the table that a header names; no header names it twice. -/
def openTable (key : String) (ns : Nodes) : Option Nodes :=
  match Table.lookup key ns with
  | none => some (Table.put key (.table .headed []) ns)
  | some (.table .implied sub) => some (Table.put key (.table .headed sub) ns)
  | some _ => none

/-- Opens the next one of the tables that share a header. -/
def openElement (key : String) (ns : Nodes) : Option Nodes :=
  match Table.lookup key ns with
  | none => some (Table.put key (.tables [] []) ns)
  | some (.tables newest older) => some (Table.put key (.tables [] (newest :: older)) ns)
  | some _ => none

end Nodes

mutual

def Node.close : Node → Toml
  | .value v => v
  | .table _ ns => .table (closeEntries ns)
  | .tables newest older => .list (closeTables older [.table (closeEntries newest)])

def closeEntries : List (String × Node) → List (String × Toml)
  | [] => []
  | (k, n) :: ns => (k, n.close) :: closeEntries ns

def closeTables : List (List (String × Node)) → List Toml → List Toml
  | [], done => done
  | ns :: older, done => closeTables older (.table (closeEntries ns) :: done)

end

end Toml
end LiveTelemetry
