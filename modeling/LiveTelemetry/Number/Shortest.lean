import LiveTelemetry.Number.Binary64

/-!
The shortest decimal of a floating-point number: the coarsest power of ten with a multiple that
reads back as the number, and of two such multiples the nearer one, or the even one on a tie.
-/
namespace LiveTelemetry

/-- The value `coefficient · 10 ^ exponent`. -/
structure Decimal where
  coefficient : Nat
  exponent : Int
  deriving DecidableEq

namespace Binary64

/-- The decimals that read back as a number lie between `low` and `high`, both counted, like
`middle`, in units of `numerator / denominator`. -/
structure Interval where
  low : Nat
  middle : Nat
  high : Nat
  closed : Bool
  numerator : Nat
  denominator : Nat

/-- The interval of a finite number other than zero. -/
def interval (x : Binary64) : Interval :=
  let m := x.significand
  let (un, ud) := ratioOf 1 (x.exponent - 2)
  let gap := if m = hiddenBit ∧ -1074 < x.exponent then 1 else 2
  ⟨4 * m - gap, 4 * m, 4 * m + 2, m % 2 == 0, un, ud⟩

/-- Whether `c · 10 ^ p` reads back as the number of the interval. -/
def Interval.holds (i : Interval) (c : Nat) (p : Int) : Bool :=
  let (a, b) := if 0 ≤ p then (tenTo p.toNat, 1) else (1, tenTo (-p).toNat)
  let v := c * a * i.denominator
  let low := i.low * i.numerator * b
  let high := i.high * i.numerator * b
  if i.closed then low ≤ v && v ≤ high else low < v && v < high

/-- Tries the powers of ten from `p` downwards. -/
def Interval.search (i : Interval) : Nat → Int → Decimal
  | 0, p => ⟨0, p⟩
  | fuel + 1, p =>
    let (a, b) := if 0 ≤ p then (tenTo p.toNat, 1) else (1, tenTo (-p).toNat)
    let n := i.middle * i.numerator * b
    let d := i.denominator * a
    let q := n / d
    match i.holds q p, i.holds (q + 1) p with
    | true, true => ⟨halfEven n d, p⟩
    | true, false => ⟨q, p⟩
    | false, true => ⟨q + 1, p⟩
    | false, false => i.search fuel (p - 1)

/-- A power of ten above a finite number. -/
def decimalBound (x : Binary64) : Int :=
  ((x.significand.log2 : Int) + 1 + x.exponent) * 30103 / 100000 + 1

/-- The shortest decimal of a finite number other than zero; 24 steps reach the seventeenth digit.
-/
def shortest (x : Binary64) : Decimal := x.interval.search 24 x.decimalBound

example : (ofDecimal false 1 (-1)).shortest = ⟨1, -1⟩ := by decide +kernel
example : (ofDecimal false 5 (-324)).shortest = ⟨5, -324⟩ := by decide +kernel
example : (ofDecimal false 17976931348623157 292).shortest = ⟨17976931348623157, 292⟩ := by
  decide +kernel

end Binary64
end LiveTelemetry
