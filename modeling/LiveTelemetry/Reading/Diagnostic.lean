import LiveTelemetry.Json.Diagnostic
import LiveTelemetry.Reading.Measurement

/-!
Diagnostic text of measured values.
-/
namespace LiveTelemetry.Measurement

def diagnostic : Measurement → String
  | number x => "Number(" ++ Layout.diagnostic.render x ++ ")"
  | text s => "Text(" ++ Text.quoted s ++ ")"
  | list js => "List([" ++ Json.diagnosticItems js ++ "])"

example : (number (.ofNat 1)).diagnostic = "Number(1.0)" := by decide +kernel
example : (list [.number (.integer 1), .object [("a", .null)]]).diagnostic =
    "List([Number(1), Object \x7b\x22a\x22: Null\x7d])" := by decide +kernel

end LiveTelemetry.Measurement
