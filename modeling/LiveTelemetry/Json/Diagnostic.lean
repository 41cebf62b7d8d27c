import LiveTelemetry.Json.Printer
import LiveTelemetry.Text.Quoted

/-!
Diagnostic text of JSON values: each with the name of its kind.
-/
namespace LiveTelemetry.Json

mutual

def diagnostic : Json → String
  | null => "Null"
  | flag b => "Bool(" ++ toString b ++ ")"
  | number n => "Number(" ++ n.render ++ ")"
  | text s => "String(" ++ Text.quoted s ++ ")"
  | list js => "Array [" ++ diagnosticItems js ++ "]"
  | object fs => "Object \x7b" ++ diagnosticFields fs ++ "\x7d"

def diagnosticItems : List Json → String
  | [] => ""
  | [j] => diagnostic j
  | j :: js => diagnostic j ++ ", " ++ diagnosticItems js

def diagnosticFields : List (String × Json) → String
  | [] => ""
  | [(k, j)] => Text.quoted k ++ ": " ++ diagnostic j
  | (k, j) :: fs => Text.quoted k ++ ": " ++ diagnostic j ++ ", " ++ diagnosticFields fs

end

end LiveTelemetry.Json
