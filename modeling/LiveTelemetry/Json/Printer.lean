import LiveTelemetry.Json.Basic

/-!
Compact JSON text: no blanks, and escapes only for quotes, backslashes and the characters below
U+0020.
-/
namespace LiveTelemetry.Json

def hexDigit (n : Nat) : Char := Nat.digitChar (n % 16)

/-- The text of one character inside a string. -/
def charText (c : Char) : List Char :=
  if c = '\x22' then ['\\', '\x22']
  else if c = '\\' then ['\\', '\\']
  else if c = '\x08' then ['\\', 'b']
  else if c = '\t' then ['\\', 't']
  else if c = '\n' then ['\\', 'n']
  else if c = '\x0c' then ['\\', 'f']
  else if c = '\r' then ['\\', 'r']
  else if c.toNat < 0x20 then ['\\', 'u', '0', '0', hexDigit (c.toNat / 16), hexDigit c.toNat]
  else [c]

def stringText (s : String) : List Char := '\x22' :: s.toList.flatMap charText ++ ['\x22']

mutual

def chars : Json → List Char
  | null => "null".toList
  | flag b => (if b then "true" else "false").toList
  | number n => n.render.toList
  | text s => stringText s
  | list [] => ['[', ']']
  | list (x :: xs) => '[' :: chars x ++ itemsText xs
  | object [] => ['\x7b', '\x7d']
  | object ((k, v) :: fs) => '\x7b' :: stringText k ++ ':' :: chars v ++ fieldsText fs

/-- The items after the first and the closing bracket. -/
def itemsText : List Json → List Char
  | [] => [']']
  | x :: xs => ',' :: chars x ++ itemsText xs

/-- The fields after the first and the closing brace. -/
def fieldsText : List (String × Json) → List Char
  | [] => ['\x7d']
  | (k, v) :: fs => ',' :: stringText k ++ ':' :: chars v ++ fieldsText fs

end

def render (j : Json) : String := String.ofList j.chars

example : (object [("a", list [number (.integer (-1)), null]), ("b", text "\x01\"")]).render =
    "\x7b\"a\":[-1,null],\"b\":\"\\u0001\\\"\"\x7d" := by decide +kernel

end LiveTelemetry.Json
