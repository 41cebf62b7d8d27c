import LiveTelemetry.Json.Reader
import Mathlib.Tactic.Common

/-!
The grammar of JSON texts, with the value that each text stands for. Containers nest up to a given
depth, of two fields with one name the later one counts, and a number that is too large has no
value.
-/
namespace LiveTelemetry.Json

/-- Blanks, as they may stand between any two lexemes. -/
def Blanks (cs : List Char) : Prop := ∀ c ∈ cs, Cursor.isSpace c = true

/-- Decimal digits, at least one. -/
def Digits (ds : List Char) : Prop := ds ≠ [] ∧ ∀ d ∈ ds, d.isDigit = true

/-! ### Numbers -/

def digitsValue (ds : List Char) : Nat := ds.foldl (fun n d => n * 10 + digitValue d) 0

/-- An exponent with its letter. -/
structure Exponent where
  letter : Char
  sign : Option Char
  digits : List Char

namespace Exponent

def chars (x : Exponent) : List Char := x.letter :: (x.sign.toList ++ x.digits)

def WellFormed (x : Exponent) : Prop :=
  (x.letter = 'e' ∨ x.letter = 'E') ∧ (∀ s ∈ x.sign, s = '+' ∨ s = '-') ∧ Digits x.digits

def isNegative (x : Exponent) : Bool := x.sign == some '-'

end Exponent

/-- The parts of a number behind its sign. -/
structure Magnitude where
  whole : List Char
  fraction : Option (List Char)
  exponent : Option Exponent

namespace Magnitude

def fractionChars : Option (List Char) → List Char
  | none => []
  | some ds => '.' :: ds

def exponentChars : Option Exponent → List Char
  | none => []
  | some x => x.chars

def chars (m : Magnitude) : List Char :=
  m.whole ++ (fractionChars m.fraction ++ exponentChars m.exponent)

/-- A whole part of several digits does not start with a zero. -/
structure WellFormed (m : Magnitude) : Prop where
  whole : Digits m.whole
  lead : m.whole.head? = some '0' → m.whole = ['0']
  fraction : ∀ ds ∈ m.fraction, Digits ds
  exponent : ∀ x ∈ m.exponent, x.WellFormed

/-- The number `significand · 10 ^ exponent`, unless it is too large. -/
def real? (negative : Bool) (significand : Nat) (exponent : Int) : Option Number :=
  (scale 4 (Binary64.ofNat significand) exponent).map fun f =>
    .real (if negative then f.neg else f)

/-- The number with an exponent. Exponents beyond 31 bits make it zero or too large at once. -/
def withExponent? (negative : Bool) (significand : Nat) (shift : Int) :
    Option Exponent → Option Number
  | none => real? negative significand shift
  | some x =>
    if 0x80000000 ≤ digitsValue x.digits then
      if significand ≠ 0 ∧ !x.isNegative then none
      else some (.real (.ofMagnitude negative 0))
    else
      real? negative significand
        (if x.isNegative then shift - digitsValue x.digits else shift + digitsValue x.digits)

/-- An integer stays one in the range of 64 bits, but for a negative zero. -/
def integer (negative : Bool) (n : Nat) : Number :=
  if !negative then .integer n
  else if n = 0 ∨ 0x8000000000000000 < n then .real (.neg (.ofNat n))
  else .integer (-n)

/-- The number with what follows its whole part. Digits of a fraction that make the significand
longer than 64 bits are left out. -/
def withTail? (negative : Bool) (significand dropped : Nat) :
    Option (List Char) → Option Exponent → Option Number
  | none, none =>
    if dropped ≠ 0 then real? negative significand dropped
    else some (integer negative significand)
  | none, some x => withExponent? negative significand dropped (some x)
  | some ds, x =>
    withExponent? negative (accumulate UInt64.size significand 0 ds).1
      (dropped - (accumulate UInt64.size significand 0 ds).2) x

/-- The number. Digits of the whole part that make the significand longer than 64 bits count as
zeros. -/
def value? (negative : Bool) (m : Magnitude) : Option Number :=
  withTail? negative (accumulate UInt64.size 0 0 m.whole).1
    (m.whole.length - (accumulate UInt64.size 0 0 m.whole).2) m.fraction m.exponent

end Magnitude

/-! ### Strings -/

def hexDigits? (cs : List Char) : Option Nat :=
  match cs.mapM hexValue? with
  | some [a, b, c, d] => some (((a * 16 + b) * 16 + c) * 16 + d)
  | _ => none

/-- The spellings of a character in a string. -/
inductive Spelling : List Char → Char → Prop
  | plain {c : Char} (hq : c ≠ '\x22') (hb : c ≠ '\\') (hc : 0x20 ≤ c.toNat) : Spelling [c] c
  | short {c d : Char} (h : simpleEscape? c = some d) : Spelling ['\\', c] d
  | unit {cs : List Char} {n : Nat} (h : hexDigits? cs = some n) (hn : n < 0xD800 ∨ 0xDFFF < n) :
      Spelling ('\\' :: 'u' :: cs) (Char.ofNat n)
  /-- A pair of surrogates is one character. -/
  | pair {cs ds : List Char} {m n : Nat} (hm : hexDigits? cs = some m)
      (hhigh : 0xD800 ≤ m ∧ m ≤ 0xDBFF) (hn : hexDigits? ds = some n)
      (hlow : 0xDC00 ≤ n ∧ n ≤ 0xDFFF) :
      Spelling ('\\' :: 'u' :: (cs ++ '\\' :: 'u' :: ds))
        (Char.ofNat (0x10000 + (m - 0xD800) * 0x400 + (n - 0xDC00)))

/-- The spellings of several characters. -/
inductive Spelled : List Char → List Char → Prop
  | nil : Spelled [] []
  | cons {p r cs : List Char} {c : Char} (hp : Spelling p c) (hr : Spelled r cs) :
      Spelled (p ++ r) (c :: cs)

/-- A string between its quotes. -/
def Quoted (cs : List Char) (s : String) : Prop :=
  ∃ body chars, Spelled body chars ∧ cs = '\x22' :: (body ++ ['\x22']) ∧ s = String.ofList chars

/-! ### Values -/

/-- What stands in front of an item: blanks, behind a comma unless it is the first. -/
def Lead (first : Bool) (cs : List Char) : Prop :=
  if first then Blanks cs else ∃ a b, Blanks a ∧ Blanks b ∧ cs = a ++ ',' :: b

mutual

/-- A text of a value in which containers nest up to `depth`. -/
inductive Denotes : Nat → List Char → Json → Prop
  | null {depth : Nat} : Denotes depth ['n', 'u', 'l', 'l'] null
  | yes {depth : Nat} : Denotes depth ['t', 'r', 'u', 'e'] (flag true)
  | no {depth : Nat} : Denotes depth ['f', 'a', 'l', 's', 'e'] (flag false)
  | positive {depth : Nat} {m : Magnitude} {n : Number} (hm : m.WellFormed)
      (hn : m.value? false = some n) : Denotes depth m.chars (number n)
  | negative {depth : Nat} {m : Magnitude} {n : Number} (hm : m.WellFormed)
      (hn : m.value? true = some n) : Denotes depth ('-' :: m.chars) (number n)
  | text {depth : Nat} {cs : List Char} {s : String} (h : Quoted cs s) : Denotes depth cs (text s)
  | list {depth : Nat} {cs : List Char} {vs : List Json} (h : Items depth true cs vs) :
      Denotes (depth + 1) ('[' :: (cs ++ [']'])) (list vs)
  | object {depth : Nat} {cs : List Char} {fs : List (String × Json)}
      (h : Fields depth true cs fs) :
      Denotes (depth + 1) ('\x7b' :: (cs ++ ['\x7d'])) (ofFields fs)

/-- The text between the brackets of a list; `first` says whether no item precedes it. -/
inductive Items : Nat → Bool → List Char → List Json → Prop
  | nil {depth : Nat} {first : Bool} {a : List Char} (ha : Blanks a) : Items depth first a []
  | cons {depth : Nat} {first : Bool} {a w r : List Char} {v : Json} {vs : List Json}
      (ha : Lead first a) (hv : Denotes depth w v) (hr : Items depth false r vs) :
      Items depth first (a ++ (w ++ r)) (v :: vs)

/-- The text between the braces of an object. -/
inductive Fields : Nat → Bool → List Char → List (String × Json) → Prop
  | nil {depth : Nat} {first : Bool} {a : List Char} (ha : Blanks a) : Fields depth first a []
  | cons {depth : Nat} {first : Bool} {a q b b' w r : List Char} {k : String} {v : Json}
      {fs : List (String × Json)} (ha : Lead first a) (hk : Quoted q k) (hb : Blanks b)
      (hb' : Blanks b') (hv : Denotes depth w v) (hr : Fields depth false r fs) :
      Fields depth first (a ++ (q ++ (b ++ ':' :: (b' ++ (w ++ r))))) ((k, v) :: fs)

end

/-- A text that holds one value and nothing else. -/
def Document (depth : Nat) (cs : List Char) (v : Json) : Prop :=
  ∃ a w b, Blanks a ∧ Denotes depth w v ∧ Blanks b ∧ cs = a ++ (w ++ b)

/-- The fields of an object are in order, with one field per name. -/
lemma Document.sorted {depth : Nat} {cs : List Char} {o : Table Json}
    (h : Document depth cs (object o)) : Table.Sorted o := by
  obtain ⟨a, w, b, -, hw, -, -⟩ := h
  generalize hv : object o = v at hw
  cases hw with
  | object hf =>
    cases hv
    exact Table.sorted_ofList _
  | _ => cases hv

end LiveTelemetry.Json
