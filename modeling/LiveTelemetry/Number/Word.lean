/-!
The ranges of words with a sign.
-/
namespace LiveTelemetry

def fitsInt32 (n : Int) : Bool := -0x80000000 ≤ n && n < 0x80000000

def fitsInt64 (n : Int) : Bool := -0x8000000000000000 ≤ n && n < 0x8000000000000000

theorem fitsInt32_iff {n : Int} : fitsInt32 n = true ↔ -2147483648 ≤ n ∧ n < 2147483648 := by
  simp [fitsInt32]

end LiveTelemetry
