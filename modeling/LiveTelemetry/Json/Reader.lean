import LiveTelemetry.Json.Cursor
import LiveTelemetry.Json.Printer

/-!
Reading a JSON value from text. Containers may be nested 127 deep. Every step of the readers moves
the cursor, so the length of the text bounds their number.
-/
namespace LiveTelemetry.Json

/-- How many containers may be open at once, plus one. -/
def depthLimit : Nat := 128

namespace Cursor

/-- What follows an item: the next item, or the end of the list. Stands in front of either. -/
def nextItem (first : Bool) (c : Cursor) : Read Bool :=
  let c := c.skipSpace
  match c.peek with
  | none => c.stopAhead .endInList
  | some x =>
    if x = ']' then .ok (false, c)
    else if first then .ok (true, c)
    else if x = ',' then
      let c := c.next.skipSpace
      match c.peek with
      | none => c.stopAhead .endInValue
      | some y => if y = ']' then c.stopAhead .trailingComma else .ok (true, c)
    else c.stopAhead .wantedListEnd

/-- What follows a field: the quote of the next key, or the end of the object. -/
def nextKey (first : Bool) (c : Cursor) : Read Bool :=
  let c := c.skipSpace
  match c.peek with
  | none => c.stopAhead .endInObject
  | some x =>
    if x = '\x7d' then .ok (false, c)
    else if first then if x = '\x22' then .ok (true, c) else c.stopAhead .keyNotString
    else if x = ',' then
      let c := c.next.skipSpace
      match c.peek with
      | none => c.stopAhead .endInValue
      | some y =>
        if y = '\x22' then .ok (true, c)
        else if y = '\x7d' then c.stopAhead .trailingComma
        else c.stopAhead .keyNotString
    else c.stopAhead .wantedObjectEnd

/-- Reads the colon behind a key. -/
def colon (c : Cursor) : Except Fault Cursor :=
  let c := c.skipSpace
  match c.peek with
  | none => c.stopAhead .endInObject
  | some x => if x = ':' then .ok c.next else c.stopAhead .wantedColon

/-- Reads a key and its colon. -/
def key (fuel : Nat) (c : Cursor) : Read String :=
  match readString fuel c.next with
  | .error f => .error f
  | .ok (k, c) =>
    match c.colon with
    | .error f => .error f
    | .ok c => .ok (k, c)

/-- Nothing but blanks may follow. -/
def finish (c : Cursor) : Except Fault Unit :=
  let c := c.skipSpace
  if c.rest.isEmpty then .ok () else c.stopAhead .trailing

end Cursor

mutual

def readValue : Nat → Nat → Cursor → Read Json
  | 0, _, c => c.stop .endInValue
  | fuel + 1, depth, c =>
    let c := c.skipSpace
    match c.peek with
    | none => c.stopAhead .endInValue
    | some x =>
      if x = 'n' then (c.next.word ['u', 'l', 'l']).map fun c => (null, c)
      else if x = 't' then (c.next.word ['r', 'u', 'e']).map fun c => (flag true, c)
      else if x = 'f' then (c.next.word ['a', 'l', 's', 'e']).map fun c => (flag false, c)
      else if x = '-' then (readNumber true c.next).map fun (n, c) => (number n, c)
      else if x.isDigit then (readNumber false c).map fun (n, c) => (number n, c)
      else if x = '\x22' then (readString fuel c.next).map fun (s, c) => (text s, c)
      else if x = '[' then
        if depth ≤ 1 then c.stopAhead .tooDeep else readItems fuel (depth - 1) true [] c.next
      else if x = '\x7b' then
        if depth ≤ 1 then c.stopAhead .tooDeep else readFields fuel (depth - 1) true [] c.next
      else c.stopAhead .wantedValue

def readItems : Nat → Nat → Bool → List Json → Cursor → Read Json
  | 0, _, _, _, c => c.stop .endInList
  | fuel + 1, depth, first, acc, c =>
    match c.nextItem first with
    | .error f => .error f
    | .ok (false, c) => .ok (list acc.reverse, c.next)
    | .ok (true, c) =>
      match readValue fuel depth c with
      | .error f => .error f
      | .ok (v, c) => readItems fuel depth false (v :: acc) c

def readFields : Nat → Nat → Bool → List (String × Json) → Cursor → Read Json
  | 0, _, _, _, c => c.stop .endInObject
  | fuel + 1, depth, first, acc, c =>
    match c.nextKey first with
    | .error f => .error f
    | .ok (false, c) => .ok (object acc, c.next)
    | .ok (true, c) =>
      match c.key fuel with
      | .error f => .error f
      | .ok (k, c) =>
        match readValue fuel depth c with
        | .error f => .error f
        | .ok (v, c) => readFields fuel depth false (Table.put k v acc) c

end

/-- Enough fuel for a text: each step of a reader moves the cursor. -/
def fuelFor (s : List Char) : Nat := 4 * s.length + 16

/-- Reads a text that holds one value and nothing else. -/
def parse (s : String) : Except Fault Json :=
  match readValue (fuelFor s.toList) depthLimit (.ofString s) with
  | .error f => .error f
  | .ok (v, c) => c.finish.map fun _ => v

example : (parse " [1, \x7b\"b\": true, \"a\": \"\\u00e9\"\x7d] ").toOption.map render =
    some "[1,\x7b\"a\":\"é\",\"b\":true\x7d]" := by decide +kernel

end LiveTelemetry.Json
