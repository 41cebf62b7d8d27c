import LiveTelemetry.Text.Utf8

/-!
Percent-encoding and the encoding of forms. Characters beyond ASCII are always written as the
octets of their UTF-8 form.
-/
namespace LiveTelemetry.Url

/-- Characters that a part of an address cannot hold as they are. -/
abbrev EncodeSet := Char → Bool

namespace EncodeSet

def controls : EncodeSet := fun c => c.toNat < 0x20 || 0x7F ≤ c.toNat

/-- The controls and some more characters. -/
def plus (s : EncodeSet) (more : List Char) : EncodeSet := fun c => s c || more.contains c

def fragment : EncodeSet := controls.plus [' ', '\x22', '<', '>', '\x60']

def query : EncodeSet := controls.plus [' ', '\x22', '#', '<', '>']

def specialQuery : EncodeSet := query.plus ['\x27']

def path : EncodeSet := fragment.plus ['#', '?', '\x7b', '\x7d']

def pathSegment : EncodeSet := path.plus ['/', '%']

def specialPathSegment : EncodeSet := pathSegment.plus ['\\']

def userinfo : EncodeSet := path.plus ['/', ':', ';', '=', '@', '[', '\\', ']', '^', '|']

end EncodeSet

def upperHexDigit (n : Nat) : Char := (Nat.digitChar (n % 16)).toUpper

def percentOctet (b : UInt8) : List Char :=
  ['%', upperHexDigit (b.toNat / 16), upperHexDigit b.toNat]

def percentChar (c : Char) : List Char := (String.utf8EncodeChar c).flatMap percentOctet

def percentEncode (s : EncodeSet) (cs : List Char) : List Char :=
  cs.flatMap fun c => if s c then percentChar c else [c]

def hexDigit? (c : Char) : Option Nat :=
  if c.isDigit then some (c.toNat - '0'.toNat)
  else if 'a' ≤ c ∧ c ≤ 'f' then some (c.toNat - 'a'.toNat + 10)
  else if 'A' ≤ c ∧ c ≤ 'F' then some (c.toNat - 'A'.toNat + 10)
  else none

/-- The octet that two hexadecimal digits stand for. -/
def hexOctet? (a b : Char) : Option UInt8 :=
  match hexDigit? a, hexDigit? b with
  | some m, some n => some (UInt8.ofNat (m * 16 + n))
  | _, _ => none

/-- The octets of a text, with percent-encoded ones decoded. -/
def percentDecode : List Char → List UInt8
  | [] => []
  | '%' :: a :: b :: r =>
    match hexOctet? a b with
    | some o => o :: percentDecode r
    | none => 0x25 :: percentDecode (a :: b :: r)
  | c :: r => String.utf8EncodeChar c ++ percentDecode r

/-- Characters that stand for themselves in a form. -/
def isFormChar (c : Char) : Bool :=
  c.toNat < 0x80 && (c.isAlphanum || c == '*' || c == '-' || c == '.' || c == '_')

def formChar (c : Char) : List Char :=
  if c = ' ' then ['+'] else if isFormChar c then [c] else percentChar c

def formEncode (s : String) : List Char := s.toList.flatMap formChar

/-- A pair of a form. -/
def formPair (p : String × String) : List Char := formEncode p.1 ++ '=' :: formEncode p.2

example : String.ofList (formPair ("vendor", "a b&é")) = "vendor=a+b%26%C3%A9" := by
  decide +kernel
example : Text.Utf8.decode? (percentDecode "h%20%zz".toList) = some "h %zz" := by decide +kernel

end LiveTelemetry.Url
