import LiveTelemetry.Schema.Mismatch

/-!
Faults of JSON text: what is wrong, and the line and column up to which the text was read. Columns
count octets.
-/
namespace LiveTelemetry.Json

/-- A place in a text: lines count from one, columns count the octets read on the line. -/
structure Place where
  line : Nat
  column : Nat
  deriving DecidableEq

namespace Place

def start : Place := ⟨1, 0⟩

/-- The place behind a character. -/
def after (p : Place) (c : Char) : Place :=
  if c = '\n' then ⟨p.line + 1, 0⟩ else ⟨p.line, p.column + c.utf8Size⟩

end Place

inductive Cause where
  | endInList
  | endInObject
  | endInString
  | endInValue
  | wantedColon
  | wantedListEnd
  | wantedObjectEnd
  | wantedWord
  | wantedValue
  | badEscape
  | badNumber
  | numberOutOfRange
  | controlCharacter
  | keyNotString
  | loneSurrogate
  | trailingComma
  | trailing
  | halfEscape
  | tooDeep
  | mismatch (m : Mismatch)
  deriving DecidableEq

/-- How mismatches read when the value is JSON. -/
def wording : Wording := ⟨"null", .json⟩

def Cause.message : Cause → String
  | endInList => "EOF while parsing a list"
  | endInObject => "EOF while parsing an object"
  | endInString => "EOF while parsing a string"
  | endInValue => "EOF while parsing a value"
  | wantedColon => "expected `:`"
  | wantedListEnd => "expected `,` or `]`"
  | wantedObjectEnd => "expected `,` or `\x7d`"
  | wantedWord => "expected ident"
  | wantedValue => "expected value"
  | badEscape => "invalid escape"
  | badNumber => "invalid number"
  | numberOutOfRange => "number out of range"
  | controlCharacter => "control character (\\u0000-\\u001F) found while parsing a string"
  | keyNotString => "key must be a string"
  | loneSurrogate => "lone leading surrogate in hex escape"
  | trailingComma => "trailing comma"
  | trailing => "trailing characters"
  | halfEscape => "unexpected end of hex escape"
  | tooDeep => "recursion limit exceeded"
  | mismatch m => m.describe wording

/-- A fault without a place was found in a value that is no longer text. -/
structure Fault where
  cause : Cause
  place : Option Place
  deriving DecidableEq

def Fault.message (f : Fault) : String :=
  match f.place with
  | none => f.cause.message
  | some p => s!"{f.cause.message} at line {p.line} column {p.column}"

example : (Fault.mk .wantedValue (some ⟨1, 2⟩)).message = "expected value at line 1 column 2" := by
  decide +kernel

end LiveTelemetry.Json
