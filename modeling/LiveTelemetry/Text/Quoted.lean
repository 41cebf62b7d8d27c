import LiveTelemetry.Text.Printable

/-!
Quoted text for diagnostics: between double quotes, with escapes for quotes, backslashes and hidden
characters.
-/
namespace LiveTelemetry.Text

def hexText (n : Nat) : String := String.ofList (Nat.toDigits 16 n)

def quotedChar (c : Char) : String :=
  if c = '\x22' then "\\\""
  else if c = '\\' then "\\\\"
  else if c = '\n' then "\\n"
  else if c = '\r' then "\\r"
  else if c = '\t' then "\\t"
  else if c = '\x00' then "\\0"
  else if isHidden c then "\\u" ++ "\x7b" ++ hexText c.toNat ++ "\x7d"
  else c.toString

def quoted (s : String) : String :=
  s.toList.foldl (fun t c => t ++ quotedChar c) "\"" ++ "\""

example : quoted "a\"b\\" = "\"a\\\"b\\\\\"" := by decide +kernel
example : quoted "\x7f" = "\"\\u\x7b7f\x7d\"" := by decide +kernel

end LiveTelemetry.Text
