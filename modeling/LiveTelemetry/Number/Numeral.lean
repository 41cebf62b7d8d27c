import LiveTelemetry.Number.Binary64

/-!
Numerals as people write them: an optional sign and decimal digits, and for real numbers a point, an
exponent, or the names of infinity and of what is no number.
-/
namespace LiveTelemetry.Numeral

def digitsValue (ds : List Char) : Nat := ds.foldl (fun n d => n * 10 + (d.toNat - '0'.toNat)) 0

def digits? (cs : List Char) : Option Nat :=
  if cs ≠ [] ∧ cs.all Char.isDigit then some (digitsValue cs) else none

/-- Whether a sign says that the rest is negative, and the rest. -/
def splitSign : List Char → Bool × List Char
  | '-' :: r => (true, r)
  | '+' :: r => (false, r)
  | r => (false, r)

def natural? : List Char → Option Nat
  | '+' :: r => digits? r
  | r => digits? r

def integer? (cs : List Char) : Option Int :=
  let (negative, r) := splitSign cs
  (digits? r).map fun n => if negative then -n else n

/-- The exponent behind its letter; no exponent counts as zero. -/
def exponent? : List Char → Option Int
  | [] => some 0
  | c :: r => if c = 'e' ∨ c = 'E' then integer? r else none

def isExponentLetter (c : Char) : Bool := c == 'e' || c == 'E'

/-- A number with at least one digit on either side of its point, if it has one. -/
def decimal? (negative : Bool) (cs : List Char) : Option Binary64 :=
  let whole := cs.takeWhile Char.isDigit
  let behind := cs.dropWhile Char.isDigit
  let fraction := match behind with
    | '.' :: r => r.takeWhile Char.isDigit
    | _ => []
  let tail := match behind with
    | '.' :: r => r.dropWhile Char.isDigit
    | r => r
  if whole = [] ∧ fraction = [] then none
  else (exponent? tail).map fun e =>
    .ofDecimal negative (digitsValue (whole ++ fraction)) (e - fraction.length)

def real? (cs : List Char) : Option Binary64 :=
  let (negative, r) := splitSign cs
  match String.ofList (r.map Char.toLower) with
  | "inf" => some (if negative then Binary64.infinity.neg else .infinity)
  | "infinity" => some (if negative then Binary64.infinity.neg else .infinity)
  | "nan" => some (if negative then Binary64.nan.neg else .nan)
  | _ => decimal? negative r

example : integer? "-017".toList = some (-17) ∧ natural? "-1".toList = none := by decide +kernel
example : real? ".5".toList = some (.ofDecimal false 5 (-1)) := by decide +kernel
example : real? ".".toList = none ∧ real? "1e".toList = none := by decide +kernel
example : real? "1e400".toList = some .infinity := by decide +kernel

end LiveTelemetry.Numeral
