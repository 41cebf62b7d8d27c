import LiveTelemetry.Number.Shortest

/-!
The written forms of floating-point numbers. A layout says which numbers are written positionally
and how the rest is spelled; all layouts share the shortest digits.
-/
namespace LiveTelemetry

/-- The decisions of one written form. -/
structure Layout where
  /-- Whether a number of this scientific exponent is written positionally. -/
  plain : Int → Bool
  /-- What a whole number gets behind its digits when it is written positionally. -/
  whole : String
  /-- The sign of an exponent that is not negative. -/
  plus : String

namespace Layout

/-- Numbers in JSON text: positional from `1e-5` to below `1e16`. -/
def json : Layout := ⟨fun e => -5 ≤ e && e < 16, ".0", "+"⟩

/-- Numbers in running text are always positional. -/
def running : Layout := ⟨fun _ => true, "", ""⟩

/-- Numbers in running text that still show that they are no integers. -/
def pointed : Layout := ⟨fun _ => true, ".0", ""⟩

/-- Numbers in diagnostic text: positional from `1e-4` to below `1e16`. -/
def diagnostic : Layout := ⟨fun e => -4 ≤ e && e < 16, ".0", ""⟩

/-- The digits `ds` with the point in front of the last `-p` of them, or `p` zeros behind. -/
def positional (l : Layout) (ds : List Char) (p : Int) : String :=
  if 0 ≤ p then String.ofList (ds ++ List.replicate p.toNat '0') ++ l.whole
  else
    let places := (-p).toNat
    if places < ds.length then
      let (a, b) := ds.splitAt (ds.length - places)
      String.ofList (a ++ '.' :: b)
    else String.ofList ('0' :: '.' :: List.replicate (places - ds.length) '0' ++ ds)

/-- One digit in front of the point, and the exponent behind. -/
def scientific (l : Layout) (ds : List Char) (e : Int) : String :=
  let fraction := if ds.length ≤ 1 then [] else '.' :: ds.drop 1
  String.ofList (ds.take 1 ++ fraction) ++ "e" ++ (if e < 0 then "-" else l.plus) ++
    toString e.natAbs

def decimal (l : Layout) (d : Decimal) : String :=
  let ds := Nat.toDigits 10 d.coefficient
  let e := d.exponent + ds.length - 1
  if l.plain e then l.positional ds d.exponent else l.scientific ds e

def render (l : Layout) (x : Binary64) : String :=
  if x.isNaN then "NaN"
  else
    (if x.negative then "-" else "") ++
      if x.isInfinite then "inf"
      else if x.isZero then "0" ++ l.whole
      else l.decimal x.shortest

example : json.render (.ofDecimal false 1 16) = "1e+16" := by decide +kernel
example : json.render (.ofDecimal true 15 (-10)) = "-1.5e-9" := by decide +kernel
example : json.render (.ofDecimal false 1 (-5)) = "0.00001" := by decide +kernel
example : running.render (.ofDecimal false 1 5) = "100000" := by decide +kernel

end Layout
end LiveTelemetry
