import LiveTelemetry.Number.Word
import LiveTelemetry.Text.Blank

/-!
Instants of universal time, and their written form: date, time of day and offset. Reading is lenient
about blanks and about the mark between date and time; writing always gives universal time.
-/
namespace LiveTelemetry

/-- A day counted from 1970-01-01, a second of that day, and nanoseconds. Nanoseconds from `10 ^
9` on belong to a leap second, which follows the second that is named. -/
structure Instant where
  day : Int
  second : Nat
  nanosecond : Nat
  deriving DecidableEq

namespace Instant

def isLeapYear (y : Int) : Bool := y % 4 == 0 && (y % 100 != 0 || y % 400 == 0)

def daysInMonth (y : Int) (m : Nat) : Nat :=
  if m = 2 then if isLeapYear y then 29 else 28
  else if m = 4 ∨ m = 6 ∨ m = 9 ∨ m = 11 then 30
  else 31

/-- The day of a date. Years are counted from March, so that a leap day comes last. -/
def dayOfDate (year : Int) (month day : Nat) : Int :=
  let y := if month ≤ 2 then year - 1 else year
  let m : Nat := if month ≤ 2 then month + 9 else month - 3
  y * 365 + y / 4 - y / 100 + y / 400 + ((153 * m + 2) / 5 : Nat) + day - 719469

/-- The date of a day. -/
def dateOfDay (z : Int) : Int × Nat × Nat :=
  let z := z + 719468
  let era := z / 146097
  let doe := (z - era * 146097).toNat
  let yoe := (doe - doe / 1460 + doe / 36524 - doe / 146096) / 365
  let doy := doe - (365 * yoe + yoe / 4 - yoe / 100)
  let mp := (5 * doy + 2) / 153
  let day := doy - (153 * mp + 2) / 5 + 1
  let month := if mp < 10 then mp + 3 else mp - 9
  let year := (yoe : Int) + era * 400
  (if month ≤ 2 then year + 1 else year, month, day)

/-- Why a text is no instant. -/
inductive Fault where
  | outOfRange
  | impossible
  | invalid
  | tooShort
  | tooLong
  deriving DecidableEq

def Fault.message : Fault → String
  | outOfRange => "input is out of range"
  | impossible => "no possible date and time matching input"
  | invalid => "input contains invalid characters"
  | tooShort => "premature end of input"
  | tooLong => "trailing input"

def digitsValue (ds : List Char) : Nat := ds.foldl (fun n d => n * 10 + (d.toNat - '0'.toNat)) 0

/-- Reads one to `width` digits. -/
def number (width : Nat) (cs : List Char) : Except Fault (Nat × List Char) :=
  match (cs.take width).takeWhile Char.isDigit with
  | [] => .error (if cs.isEmpty then .tooShort else .invalid)
  | ds =>
    if 0x8000000000000000 ≤ digitsValue ds then .error .outOfRange
    else .ok (digitsValue ds, cs.drop ds.length)

/-- Reads a number that must lie in a range, with blanks in front. -/
def bounded (width low high : Nat) (cs : List Char) : Except Fault (Nat × List Char) :=
  match number width (Text.trimStartChars cs) with
  | .error f => .error f
  | .ok (n, r) => if low ≤ n ∧ n ≤ high then .ok (n, r) else .error .outOfRange

/-- Reads a year: four digits, or any number of them behind a sign. -/
def yearNumber (cs : List Char) : Except Fault (Int × List Char) :=
  let signed (sign : Int) (r : List Char) : Except Fault (Int × List Char) :=
    match number r.length r with
    | .error f => .error f
    | .ok (n, r) =>
      if fitsInt32 (sign * n) then .ok (sign * n, r) else .error .outOfRange
  match Text.trimStartChars cs with
  | '-' :: r => signed (-1) r
  | '+' :: r => signed 1 r
  | r =>
    match number 4 r with
    | .error f => .error f
    | .ok (n, r) => .ok (n, r)

/-- Reads a mark with blanks in front. -/
def mark (c : Char) (cs : List Char) : Except Fault (List Char) :=
  match Text.trimStartChars cs with
  | [] => .error .tooShort
  | x :: r => if x = c then .ok r else .error .invalid

/-- Reads a fraction of a second, of which nine digits count. -/
def fraction : List Char → Except Fault (Nat × List Char)
  | '.' :: r =>
    match (r.take 9).takeWhile Char.isDigit with
    | [] => .error (if r.isEmpty then .tooShort else .invalid)
    | ds => .ok (digitsValue (ds ++ List.replicate (9 - ds.length) '0'), r.dropWhile Char.isDigit)
  | r => .ok (0, r)

/-- Reads two digits of an offset. -/
def twoDigits : List Char → Except Fault (Nat × List Char)
  | a :: b :: r =>
    if a.isDigit ∧ b.isDigit then .ok (digitsValue [a, b], r) else .error .invalid
  | [a] => .error (if a.utf8Size < 2 then .tooShort else .invalid)
  | [] => .error .tooShort

/-- Reads an offset from universal time, in seconds. -/
def offset (cs : List Char) : Except Fault (Int × List Char) :=
  if (cs.take 3).map Char.toLower = ['u', 't', 'c'] then .ok (0, cs.drop 3)
  else
    match cs with
    | [] => .error .tooShort
    | x :: r =>
      if x = 'Z' ∨ x = 'z' then .ok (0, r)
      else if x = '+' ∨ x = '-' ∨ x = '\u2212' then do
        let (hours, r) ← twoDigits r
        let (minutes, r) ← twoDigits (r.dropWhile fun c => c == ':' || Text.isBlankChar c)
        if 60 ≤ minutes then .error .outOfRange
        else
          let seconds : Int := hours * 3600 + minutes * 60
          .ok (if x = '+' then seconds else -seconds, r)
      else .error .invalid

/-- The instant of a date, a time of day and an offset. -/
def ofCivil (year : Int) (month day hour minute second nanosecond : Nat) (offset : Int) :
    Except Fault Instant :=
  if year < -262143 ∨ 262142 < year ∨ daysInMonth year month < day then .error .outOfRange
  else if offset ≤ -86400 ∨ 86400 ≤ offset then .error .outOfRange
  else
    let leap := if second = 60 then 1 else 0
    let clock : Int := hour * 3600 + minute * 60 + (second - leap : Nat) - offset
    let d := dayOfDate year month day + clock / 86400
    if d < dayOfDate (-262143) 1 1 ∨ dayOfDate 262142 12 31 < d then .error .impossible
    else .ok ⟨d, (clock % 86400).toNat, nanosecond + leap * 1000000000⟩

def parseChars (cs : List Char) : Except Fault Instant := do
  let (year, r) ← yearNumber cs
  let r ← mark '-' r
  let (month, r) ← bounded 2 1 12 r
  let r ← mark '-' r
  let (day, r) ← bounded 2 1 31 r
  match r with
  | [] => .error .tooShort
  | t :: r =>
    if t ≠ 't' ∧ t ≠ 'T' ∧ t ≠ ' ' then .error .invalid
    else
      let (hour, r) ← bounded 2 0 23 r
      let r ← mark ':' r
      let (minute, r) ← bounded 2 0 59 r
      let r ← mark ':' r
      let (second, r) ← bounded 2 0 60 r
      let (nanosecond, r) ← fraction r
      let (offset, r) ← offset (Text.trimStartChars r)
      if (Text.trimStartChars r).isEmpty then
        ofCivil year month day hour minute second nanosecond offset
      else .error .tooLong

def parse (s : String) : Except Fault Instant := parseChars s.toList

def padded (width n : Nat) : String :=
  let ds := Nat.toDigits 10 n
  String.ofList (List.replicate (width - ds.length) '0' ++ ds)

def yearText (y : Int) : String :=
  if 0 ≤ y ∧ y ≤ 9999 then padded 4 y.toNat
  else (if y < 0 then "-" else "+") ++ padded 4 y.natAbs

/-- As few digits as show the fraction in whole thousandths, millionths or billionths. -/
def fractionText (n : Nat) : String :=
  if n = 0 then ""
  else if n % 1000000 = 0 then "." ++ padded 3 (n / 1000000)
  else if n % 1000 = 0 then "." ++ padded 6 (n / 1000)
  else "." ++ padded 9 n

def render (t : Instant) : String :=
  let (y, m, d) := dateOfDay t.day
  let leap := t.nanosecond / 1000000000
  let s := t.second % 60 + leap
  yearText y ++ "-" ++ padded 2 m ++ "-" ++ padded 2 d ++ "T" ++
    padded 2 (t.second / 3600) ++ ":" ++ padded 2 (t.second / 60 % 60) ++ ":" ++ padded 2 s ++
    fractionText (t.nanosecond % 1000000000) ++ "Z"

example : (parse "2024-05-01 12:00:60.5+02:00").toOption.map render =
    some "2024-05-01T10:00:60.500Z" := by decide +kernel
example : (parse "2024-02-30T00:00:00Z").toOption = none := by decide +kernel

end Instant
end LiveTelemetry
