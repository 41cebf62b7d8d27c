import LiveTelemetry.Json.Basic
import LiveTelemetry.Json.Fault

/-!
Reading positions in JSON text, and the lexemes: words, numbers and strings.
-/
namespace LiveTelemetry.Json

/-- The text that is still to be read, and the place where it starts. -/
structure Cursor where
  rest : List Char
  place : Place

abbrev Read (α : Type) := Except Fault (α × Cursor)

namespace Cursor

def ofString (s : String) : Cursor := ⟨s.toList, .start⟩

/-- Moves behind the next character. -/
def next (c : Cursor) : Cursor :=
  match c.rest with
  | [] => c
  | x :: r => ⟨r, c.place.after x⟩

def peek (c : Cursor) : Option Char := c.rest.head?

/-- The place `n` octets ahead, or at the end of the text if that comes first. -/
def placeAhead : Place → List Char → Nat → Place
  | p, [], _ => p
  | p, x :: r, n =>
    if n = 0 then p
    else if x.utf8Size ≤ n then placeAhead (p.after x) r (n - x.utf8Size)
    else ⟨p.line, p.column + n⟩

/-- A fault in what has been read. -/
def fault (c : Cursor) (cause : Cause) : Fault := ⟨cause, some c.place⟩

/-- A fault in the next octet. -/
def faultAhead (c : Cursor) (cause : Cause) (n : Nat) : Fault :=
  ⟨cause, some (placeAhead c.place c.rest n)⟩

def stop {α : Type} (c : Cursor) (cause : Cause) : Except Fault α := .error (c.fault cause)

/-- Stops at the next octet, or at the end of the text. -/
def stopAhead {α : Type} (c : Cursor) (cause : Cause) : Except Fault α :=
  .error (c.faultAhead cause 1)

def isSpace (c : Char) : Bool := c == ' ' || c == '\n' || c == '\t' || c == '\r'

def skipSpaceFrom : List Char → Place → Cursor
  | [], p => ⟨[], p⟩
  | x :: r, p => if isSpace x then skipSpaceFrom r (p.after x) else ⟨x :: r, p⟩

def skipSpace (c : Cursor) : Cursor := skipSpaceFrom c.rest c.place

/-- Reads the given characters. -/
def word : List Char → Cursor → Except Fault Cursor
  | [], c => .ok c
  | w :: ws, c =>
    match c.rest with
    | [] => c.stop .endInValue
    | x :: _ => if x = w then word ws c.next else c.stopAhead .wantedWord

end Cursor

/-- Reads the longest run of digits. -/
def digitRun : List Char → Place → List Char → List Char × Cursor
  | [], p, acc => (acc.reverse, ⟨[], p⟩)
  | x :: r, p, acc =>
    if x.isDigit then digitRun r (p.after x) (x :: acc) else (acc.reverse, ⟨x :: r, p⟩)

def Cursor.digits (c : Cursor) : List Char × Cursor := digitRun c.rest c.place []

def digitValue (c : Char) : Nat := c.toNat - '0'.toNat

/-- Appends digits to a number as long as it stays below the limit, and counts them. -/
def accumulate (limit : Nat) : Nat → Nat → List Char → Nat × Nat
  | n, count, [] => (n, count)
  | n, count, d :: ds =>
    if limit ≤ n * 10 + digitValue d then (n, count)
    else accumulate limit (n * 10 + digitValue d) (count + 1) ds

/-- The number `significand · 10 ^ exponent`, rounded once for the significand and once for each
power of ten by which it is scaled; `none` when it is too large. -/
def scale : Nat → Binary64 → Int → Option Binary64
  | 0, f, _ => some f
  | fuel + 1, f, e =>
    if e.natAbs ≤ 308 then
      let power := Binary64.ofNat (tenTo e.natAbs)
      if e < 0 then some (f.div power)
      else if (f.mul power).isInfinite then none else some (f.mul power)
    else if f.isZero then some f
    else if 0 ≤ e then none
    else scale fuel (f.div (Binary64.ofNat (tenTo 308))) (e + 308)

/-- A number with a fraction or an exponent, once all of it has been read. -/
def realNumber (negative : Bool) (significand : Nat) (exponent : Int) (c : Cursor) : Read Number :=
  match scale 4 (Binary64.ofNat significand) exponent with
  | none => c.stop .numberOutOfRange
  | some f => .ok (.real (if negative then f.neg else f), c)

/-- The digits of an exponent; those behind the first that makes it too large are not looked at. -/
def exponentValue : Nat → List Char → Place → Option Nat × Cursor
  | n, [], p => (some n, ⟨[], p⟩)
  | n, x :: r, p =>
    if x.isDigit then
      if 0x80000000 ≤ n * 10 + digitValue x then (none, ⟨r, p.after x⟩)
      else exponentValue (n * 10 + digitValue x) r (p.after x)
    else (some n, ⟨x :: r, p⟩)

/-- Reads an exponent behind its letter. -/
def exponentPart (negative : Bool) (significand : Nat) (exponent : Int) (c : Cursor) :
    Read Number :=
  let negativeExponent := c.peek == some '-'
  let c := if c.peek == some '+' || c.peek == some '-' then c.next else c
  match c.rest with
  | [] => c.stop .endInValue
  | x :: _ =>
    if !x.isDigit then c.stopAhead .badNumber
    else
      match exponentValue 0 c.rest c.place with
      | (some n, c) =>
        realNumber negative significand (if negativeExponent then exponent - n else exponent + n) c
      | (none, c) =>
        if significand ≠ 0 ∧ !negativeExponent then c.stop .numberOutOfRange
        else .ok (.real (.ofMagnitude negative 0), c.digits.2)

def isExponentLetter (c : Option Char) : Bool := c == some 'e' || c == some 'E'

/-- Reads a fraction behind its point. -/
def fractionPart (negative : Bool) (significand : Nat) (exponent : Int) (c : Cursor) :
    Read Number :=
  match c.digits with
  | ([], _) => c.stopAhead (if c.rest.isEmpty then .endInValue else .badNumber)
  | (ds, c) =>
    let (significand, count) := accumulate UInt64.size significand 0 ds
    let exponent := exponent - count
    if isExponentLetter c.peek then exponentPart negative significand exponent c.next
    else realNumber negative significand exponent c

/-- Reads what follows the integer part of a number. -/
def numberTail (negative : Bool) (significand : Nat) (dropped : Nat) (c : Cursor) : Read Number :=
  if c.peek == some '.' then fractionPart negative significand dropped c.next
  else if isExponentLetter c.peek then exponentPart negative significand dropped c.next
  else if dropped ≠ 0 then realNumber negative significand dropped c
  else if !negative then .ok (.integer significand, c)
  else if significand = 0 ∨ 0x8000000000000000 < significand then
    .ok (.real (.neg (.ofNat significand)), c)
  else .ok (.integer (-significand), c)

/-- Reads a number behind its sign. Integers stay integers in the range of 64 bits. -/
def readNumber (negative : Bool) (c : Cursor) : Read Number :=
  match c.rest with
  | [] => c.stop .endInValue
  | x :: _ =>
    if x = '0' then
      match c.next.peek with
      | some d => if d.isDigit then c.next.stopAhead .badNumber else numberTail negative 0 0 c.next
      | none => numberTail negative 0 0 c.next
    else if x.isDigit then
      let (ds, c) := c.digits
      let (significand, count) := accumulate UInt64.size 0 0 ds
      numberTail negative significand (ds.length - count) c
    else c.stopAhead .badNumber

def hexValue? (c : Char) : Option Nat :=
  if c.isDigit then some (digitValue c)
  else if 'a' ≤ c ∧ c ≤ 'f' then some (c.toNat - 'a'.toNat + 10)
  else if 'A' ≤ c ∧ c ≤ 'F' then some (c.toNat - 'A'.toNat + 10)
  else none

def octetCount (cs : List Char) : Nat := cs.foldl (fun n c => n + c.utf8Size) 0

/-- Reads four hexadecimal digits. -/
def hexEscape (c : Cursor) : Read Nat :=
  match (c.rest.take 4).mapM hexValue? with
  | some [h₁, h₂, h₃, h₄] =>
    .ok (((h₁ * 16 + h₂) * 16 + h₃) * 16 + h₄, c.next.next.next.next)
  | _ =>
    if octetCount (c.rest.take 4) < 4 then
      .error ⟨.endInString, some (Cursor.placeAhead c.place c.rest 4)⟩
    else .error (c.faultAhead .badEscape 4)

/-- Reads the character that an escape behind `\u` stands for; a pair of surrogates is one. -/
def unicodeEscape (c : Cursor) : Read Char :=
  match hexEscape c with
  | .error f => .error f
  | .ok (n, c) =>
    if 0xDC00 ≤ n ∧ n ≤ 0xDFFF then c.stop .loneSurrogate
    else if n < 0xD800 ∨ 0xDBFF < n then .ok (Char.ofNat n, c)
    else
      match c.rest with
      | [] => c.stop .endInString
      | x :: _ =>
        if x ≠ '\\' then c.stopAhead .halfEscape
        else
          match c.next.rest with
          | [] => c.next.stop .endInString
          | y :: _ =>
            if y ≠ 'u' then c.next.stopAhead .halfEscape
            else
              match hexEscape c.next.next with
              | .error f => .error f
              | .ok (m, c) =>
                if m < 0xDC00 ∨ 0xDFFF < m then c.stop .loneSurrogate
                else .ok (Char.ofNat (0x10000 + (n - 0xD800) * 0x400 + (m - 0xDC00)), c)

def simpleEscape? (c : Char) : Option Char :=
  if c = '\x22' then some '\x22'
  else if c = '\\' then some '\\'
  else if c = '/' then some '/'
  else if c = 'b' then some '\x08'
  else if c = 'f' then some '\x0c'
  else if c = 'n' then some '\n'
  else if c = 'r' then some '\r'
  else if c = 't' then some '\t'
  else none

/-- Reads the character that an escape behind the backslash stands for. -/
def escape (c : Cursor) : Read Char :=
  match c.rest with
  | [] => c.stop .endInString
  | x :: _ =>
    match simpleEscape? x with
    | some y => .ok (y, c.next)
    | none => if x = 'u' then unicodeEscape c.next else c.stopAhead .badEscape

/-- Reads a string behind its opening quote; `fuel` exceeds the number of characters to be read. -/
def stringBody : Nat → List Char → Cursor → Read String
  | 0, _, c => c.stop .endInString
  | fuel + 1, acc, c =>
    match c.rest with
    | [] => c.stop .endInString
    | x :: _ =>
      if x = '\x22' then .ok (String.ofList acc.reverse, c.next)
      else if x = '\\' then
        match escape c.next with
        | .error f => .error f
        | .ok (y, c) => stringBody fuel (y :: acc) c
      else if x.toNat < 0x20 then c.stopAhead .controlCharacter
      else stringBody fuel (x :: acc) c.next

def readString (fuel : Nat) (c : Cursor) : Read String := stringBody fuel [] c

end LiveTelemetry.Json
