/-!
Floating-point numbers of 64 bits. Every operation works on the exact ratio that the bits stand
for and rounds once, to the nearest number and to the even one of two that are equally near.
-/
namespace LiveTelemetry

/-- The power `10 ^ n`. -/
def tenTo (n : Nat) : Nat := Nat.pow 10 n

/-- A binary floating-point number, by its bit pattern. -/
structure Binary64 where
  bits : UInt64
  deriving DecidableEq, Inhabited

namespace Binary64

def signBit : Nat := 0x8000000000000000

/-- The leading bit of a significand, which is not among the stored bits. -/
def hiddenBit : Nat := 0x10000000000000

def negative (x : Binary64) : Bool := signBit ≤ x.bits.toNat

/-- The bits without the sign: they are ordered like the magnitudes they stand for. -/
def magnitude (x : Binary64) : Nat := x.bits.toNat % signBit

/-- The magnitude of the infinities; the NaNs lie above it. -/
def infinityMagnitude : Nat := 2047 * hiddenBit

def ofMagnitude (negative : Bool) (magnitude : Nat) : Binary64 :=
  ⟨UInt64.ofNat (magnitude + if negative then signBit else 0)⟩

def zero : Binary64 := ofMagnitude false 0

def negativeZero : Binary64 := ofMagnitude true 0

def infinity : Binary64 := ofMagnitude false infinityMagnitude

def nan : Binary64 := ofMagnitude false (infinityMagnitude + hiddenBit / 2)

def isNaN (x : Binary64) : Bool := infinityMagnitude < x.magnitude

def isInfinite (x : Binary64) : Bool := x.magnitude == infinityMagnitude

def isZero (x : Binary64) : Bool := x.magnitude == 0

def neg (x : Binary64) : Binary64 := ofMagnitude (!x.negative) x.magnitude

/-- A finite number is its significand times two to the power `exponent`. -/
def significand (x : Binary64) : Nat :=
  if x.magnitude < hiddenBit then x.magnitude else hiddenBit + x.magnitude % hiddenBit

def exponent (x : Binary64) : Int :=
  if x.magnitude < hiddenBit then -1074 else (x.magnitude / hiddenBit : Nat) - 1075

/-- The ratio `s · 2 ^ e`. -/
def ratioOf (s : Nat) (e : Int) : Nat × Nat :=
  if 0 ≤ e then (s <<< e.toNat, 1) else (s, 1 <<< (-e).toNat)

/-- Numerator and denominator of a finite magnitude. -/
def ratio (x : Binary64) : Nat × Nat := ratioOf x.significand x.exponent

/-- The integer nearest to `n / d`, and the even one of two that are equally near. -/
def halfEven (n d : Nat) : Nat :=
  let q := n / d
  let r := n % d
  if d < 2 * r ∨ (2 * r = d ∧ q % 2 = 1) then q + 1 else q

/-- The magnitude nearest to `n / d`, at most that of infinity. -/
def nearestMagnitude (n d : Nat) : Nat :=
  if n = 0 then 0
  else
    let e := max ((n.log2 : Int) - d.log2 - 53) (-1074)
    let n' := if 0 ≤ e then n else n <<< (-e).toNat
    let d' := if 0 ≤ e then d <<< e.toNat else d
    let m :=
      if 2 * hiddenBit ≤ n' / d' then (e + 1075).toNat * hiddenBit + halfEven n' (2 * d')
      else (e + 1074).toNat * hiddenBit + halfEven n' d'
    min m infinityMagnitude

def ofRatio (negative : Bool) (n d : Nat) : Binary64 := ofMagnitude negative (nearestMagnitude n d)

def ofNat (n : Nat) : Binary64 := ofRatio false n 1

def ofInt (n : Int) : Binary64 := ofRatio (n < 0) n.natAbs 1

/-- The number nearest to `c · 10 ^ e`. Exponents beyond the range are settled without forming the
power. -/
def ofDecimal (negative : Bool) (c : Nat) (e : Int) : Binary64 :=
  let size : Int := (Nat.toDigits 10 c).length
  if c = 0 then ofMagnitude negative 0
  else if 310 < size + e then ofMagnitude negative infinityMagnitude
  else if size + e < -330 then ofMagnitude negative 0
  else if 0 ≤ e then ofRatio negative (c * tenTo e.toNat) 1
  else ofRatio negative c (tenTo (-e).toNat)

/-- The product of finite numbers. -/
def mul (x y : Binary64) : Binary64 :=
  let (a, b) := x.ratio
  let (c, d) := y.ratio
  ofRatio (x.negative != y.negative) (a * c) (b * d)

/-- The quotient of a finite number by a finite one that is not zero. -/
def div (x y : Binary64) : Binary64 :=
  let (a, b) := x.ratio
  let (c, d) := y.ratio
  ofRatio (x.negative != y.negative) (a * d) (b * c)

/-- Numeric equality: the two zeros are equal and a NaN equals nothing. -/
def same (x y : Binary64) : Bool :=
  !x.isNaN && !y.isNaN && (x == y || (x.isZero && y.isZero))

/-- Rounds half away from zero and clamps to the range of `UInt64`; a NaN becomes zero. -/
def toUInt64Clamped (x : Binary64) : UInt64 :=
  if x.isNaN || x.negative then 0
  else if x.isInfinite then UInt64.ofNat (UInt64.size - 1)
  else
    let (n, d) := x.ratio
    UInt64.ofNat (min ((2 * n + d) / (2 * d)) (UInt64.size - 1))

example : (ofDecimal false 1 (-1)).bits = 0x3FB999999999999A := by decide +kernel
example : (ofDecimal false 5 (-324)).bits = 1 := by decide +kernel
example : (ofNat 9007199254740993).bits = (ofNat 9007199254740992).bits := by decide +kernel
example : negativeZero.same zero = true ∧ nan.same nan = false := by decide +kernel

end Binary64
end LiveTelemetry
