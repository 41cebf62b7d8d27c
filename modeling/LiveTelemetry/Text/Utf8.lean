/-!
Reading octets as UTF-8. A malformed sequence is cut where its first offending octet stands, so
every octet belongs to exactly one character or one malformed piece.
-/
namespace LiveTelemetry.Text.Utf8

/-- What is still owed after the octets of an unfinished character: how many octets, the bits read
so far, and the range the next octet must lie in. -/
structure Partial where
  owed : Nat
  bits : Nat
  low : Nat
  high : Nat

/-- The reading of a first octet: a character, the start of a longer one, or neither. -/
def first (b : Nat) : Option (Char ⊕ Partial) :=
  if b < 0x80 then some (.inl (Char.ofNat b))
  else if 0xC2 ≤ b ∧ b ≤ 0xDF then some (.inr ⟨1, b - 0xC0, 0x80, 0xBF⟩)
  else if b = 0xE0 then some (.inr ⟨2, 0, 0xA0, 0xBF⟩)
  else if b = 0xED then some (.inr ⟨2, 0xD, 0x80, 0x9F⟩)
  else if 0xE1 ≤ b ∧ b ≤ 0xEF then some (.inr ⟨2, b - 0xE0, 0x80, 0xBF⟩)
  else if b = 0xF0 then some (.inr ⟨3, 0, 0x90, 0xBF⟩)
  else if 0xF1 ≤ b ∧ b ≤ 0xF3 then some (.inr ⟨3, b - 0xF0, 0x80, 0xBF⟩)
  else if b = 0xF4 then some (.inr ⟨3, 4, 0x80, 0x8F⟩)
  else none

/-- One entry per character or malformed piece, `none` for the latter. -/
def pieces : Option Partial → List UInt8 → List (Option Char)
  | none, [] => []
  | some _, [] => [none]
  | none, b :: r =>
    match first b.toNat with
    | some (.inl c) => some c :: pieces none r
    | some (.inr p) => pieces (some p) r
    | none => none :: pieces none r
  | some p, b :: r =>
    if p.low ≤ b.toNat ∧ b.toNat ≤ p.high then
      let bits := p.bits * 64 + (b.toNat - 0x80)
      if p.owed ≤ 1 then some (Char.ofNat bits) :: pieces none r
      else pieces (some ⟨p.owed - 1, bits, 0x80, 0xBF⟩) r
    else
      match first b.toNat with
      | some (.inl c) => none :: some c :: pieces none r
      | some (.inr q) => none :: pieces (some q) r
      | none => none :: none :: pieces none r

/-- The text of well-formed octets. -/
def decode? (bytes : List UInt8) : Option String :=
  ((pieces none bytes).mapM id).map String.ofList

/-- The text of any octets, with U+FFFD for each malformed piece. -/
def decodeLossy (bytes : List UInt8) : String :=
  String.ofList ((pieces none bytes).map (·.getD '\ufffd'))

/-- The octets of a text. -/
def encode (s : String) : List UInt8 := s.toList.flatMap String.utf8EncodeChar

example : decode? [0xE6, 0x97, 0xA5, 0x41] = some "日A" := by decide +kernel
example : decode? [0xC0, 0x80] = none := by decide +kernel
example : decodeLossy [0x61, 0xE6, 0x97, 0x62, 0xFF] = "a\ufffdb\ufffd" := by decide +kernel

end LiveTelemetry.Text.Utf8
