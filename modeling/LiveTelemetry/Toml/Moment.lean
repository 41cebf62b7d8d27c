import LiveTelemetry.Instant

/-!
Dates and times of TOML documents. The normal form has a `T` between both, seconds, no zeros at
the end of a fraction, and `Z` for universal time.
-/
namespace LiveTelemetry.Toml.Moment

/-- A number of a fixed count of digits, from `low` to `high`, and what follows. -/
def number? (width low high : Nat) (cs : List Char) : Option (String × Nat × List Char) :=
  let ds := cs.take width
  let n := Instant.digitsValue ds
  if ds.length = width ∧ ds.all Char.isDigit ∧ low ≤ n ∧ n ≤ high then
    some (String.ofList ds, n, cs.drop width)
  else none

def mark? (c : Char) : List Char → Option (List Char)
  | x :: r => if x = c then some r else none
  | [] => none

def date? (cs : List Char) : Option (String × List Char) := do
  let (year, y, r) ← number? 4 0 9999 cs
  let r ← mark? '-' r
  let (month, m, r) ← number? 2 1 12 r
  let r ← mark? '-' r
  let (day, _, r) ← number? 2 1 (Instant.daysInMonth y m) r
  return (year ++ "-" ++ month ++ "-" ++ day, r)

/-- Digits of a fraction count up to the ninth; zeros at the end are dropped. -/
def fractionText (ds : List Char) : String :=
  match ((ds.take 9).reverse.dropWhile (· == '0')).reverse with
  | [] => ""
  | ds => "." ++ String.ofList ds

def seconds? : List Char → Option (String × List Char)
  | ':' :: r => do
    let (second, _, r) ← number? 2 0 60 r
    match r with
    | '.' :: r =>
      let ds := r.takeWhile Char.isDigit
      if ds = [] then none else some (second ++ fractionText ds, r.dropWhile Char.isDigit)
    | r => some (second, r)
  | r => some ("00", r)

def time? (cs : List Char) : Option (String × List Char) := do
  let (hour, _, r) ← number? 2 0 23 cs
  let r ← mark? ':' r
  let (minute, _, r) ← number? 2 0 59 r
  let (second, r) ← seconds? r
  return (hour ++ ":" ++ minute ++ ":" ++ second, r)

def offset? : List Char → Option String
  | [] => some ""
  | [c] => if c = 'Z' ∨ c = 'z' then some "Z" else none
  | c :: r => do
    let (hour, _, r) ← number? 2 0 23 r
    let r ← mark? ':' r
    let (minute, _, r) ← number? 2 0 59 r
    let zero := hour == "00" && minute == "00"
    if r ≠ [] ∨ (c ≠ '+' ∧ c ≠ '-') then none
    else some ((if c = '-' && !zero then "-" else "+") ++ hour ++ ":" ++ minute)

/-- The normal form of a date, a time, or both. -/
def parse? (cs : List Char) : Option String :=
  match date? cs with
  | none => do
    let (time, r) ← time? cs
    if r = [] then some time else none
  | some (date, []) => some date
  | some (date, c :: r) => do
    if c ≠ 'T' ∧ c ≠ 't' ∧ c ≠ ' ' then none
    let (time, r) ← time? r
    let offset ← offset? r
    return date ++ "T" ++ time ++ offset

example : parse? "2024-05-01 07:32:00.500z".toList = some "2024-05-01T07:32:00.5Z" := by
  decide +kernel
example : parse? "2023-02-29".toList = none := by decide +kernel
example : parse? "23:59".toList = some "23:59:00" := by decide +kernel

end LiveTelemetry.Toml.Moment
