import LiveTelemetry.Number.Numeral
import LiveTelemetry.Number.Word
import LiveTelemetry.Toml.Basic
import LiveTelemetry.Toml.Moment

/-!
Values of TOML documents that are written without quotes and brackets.
-/
namespace LiveTelemetry.Toml

/-- Digits without the single underscores that may stand between them. -/
def ungroup (digit : Char → Bool) : List Char → Option (List Char)
  | [] => none
  | [d] => if digit d then some [d] else none
  | d :: '_' :: r => if digit d then (ungroup digit r).map (d :: ·) else none
  | d :: r => if digit d then (ungroup digit r).map (d :: ·) else none

def digitValue? (base : Nat) (c : Char) : Option Nat :=
  let n :=
    if c.isDigit then c.toNat - '0'.toNat
    else if 'a' ≤ c ∧ c ≤ 'f' then c.toNat - 'a'.toNat + 10
    else if 'A' ≤ c ∧ c ≤ 'F' then c.toNat - 'A'.toNat + 10
    else base
  if n < base then some n else none

/-- A number in a base other than ten. -/
def based? (base : Nat) (cs : List Char) : Option Nat :=
  (ungroup (fun c => (digitValue? base c).isSome) cs).map
    (·.foldl (fun n c => n * base + (digitValue? base c).getD 0) 0)

/-- Decimal digits without a zero in front. -/
def whole? (cs : List Char) : Option (List Char) :=
  match ungroup Char.isDigit cs with
  | some ('0' :: _ :: _) => none
  | ds => ds

def integer? (cs : List Char) : Option Int :=
  let n : Option Int := match cs with
    | '0' :: 'x' :: r => (based? 16 r).map Int.ofNat
    | '0' :: 'o' :: r => (based? 8 r).map Int.ofNat
    | '0' :: 'b' :: r => (based? 2 r).map Int.ofNat
    | cs =>
      let (negative, r) := Numeral.splitSign cs
      (whole? r).map fun ds =>
        let n : Int := Numeral.digitsValue ds
        if negative then -n else n
  n.filter fitsInt64

/-- A fraction behind its point. -/
def fraction? : List Char → Option (List Char)
  | [] => some []
  | '.' :: r => ungroup Char.isDigit r
  | _ => none

def exponent? : List Char → Option Int
  | [] => some 0
  | _ :: r =>
    let (negative, r) := Numeral.splitSign r
    (ungroup Char.isDigit r).map fun ds =>
      let n : Int := Numeral.digitsValue ds
      if negative then -n else n

/-- A number with a fraction, an exponent or both; it must not be too large. -/
def decimal? (negative : Bool) (cs : List Char) : Option Binary64 := do
  let mantissa := cs.takeWhile fun c => !Numeral.isExponentLetter c
  let behind := cs.dropWhile fun c => !Numeral.isExponentLetter c
  let point := mantissa.dropWhile (· ≠ '.')
  let whole ← whole? (mantissa.takeWhile (· ≠ '.'))
  let fraction ← fraction? point
  let e ← exponent? behind
  let n := Numeral.digitsValue (whole ++ fraction)
  let x := Binary64.ofDecimal negative n (e - fraction.length)
  if point = [] ∧ behind = [] ∨ x.isInfinite then none else some x

def real? (cs : List Char) : Option Binary64 :=
  let (negative, r) := Numeral.splitSign cs
  if r = ['i', 'n', 'f'] then some (if negative then Binary64.infinity.neg else .infinity)
  else if r = ['n', 'a', 'n'] then some (if negative then Binary64.nan.neg else .nan)
  else decimal? negative r

def flag? (cs : List Char) : Option Bool :=
  if cs = ['t', 'r', 'u', 'e'] then some true
  else if cs = ['f', 'a', 'l', 's', 'e'] then some false
  else none

def scalar? (cs : List Char) : Option Toml :=
  ((flag? cs).map flag).or <| ((integer? cs).map integer).or <|
    ((real? cs).map real).or <| (Moment.parse? cs).map moment

example : integer? "1_000".toList = some 1000 ∧ integer? "01".toList = none := by decide +kernel
example : integer? "0xDEAD_beef".toList = some 0xDEADBEEF ∧ integer? "-0x1".toList = none := by
  decide +kernel
example : integer? "9223372036854775808".toList = none := by decide +kernel
example : real? "1e400".toList = none ∧ real? "1.".toList = none ∧ real? "5".toList = none := by
  decide +kernel
example : real? "-1_0.5_0e-1".toList = some (.ofDecimal true 105 (-2)) := by decide +kernel

end LiveTelemetry.Toml
