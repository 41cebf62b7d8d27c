import LiveTelemetry.Json.Skip
import LiveTelemetry.Schema.OfJson

/-!
Reading JSON text by a schema, without forming the value first. A mismatch is placed where the
innermost value around it that was begun has been read to; a fault of the text found on the way
comes first.
-/
namespace LiveTelemetry.Schema

open Json (Cursor Fault Cause)

/-- Why reading stopped: at a fault with a place, or at a mismatch whose place is not settled yet.
-/
inductive Halt where
  | placed (f : Fault)
  | loose (m : Mismatch) (c : Cursor)

/-- Fuel, how many containers may still be opened plus one, and the cursor. -/
abbrev TextReader := Nat → Nat → Cursor → Except Halt (Datum × Cursor)

def placed {α : Type} : Except Fault α → Except Halt α
  | .ok a => .ok a
  | .error f => .error (.placed f)

def loose {α : Type} (c : Cursor) : Except Mismatch α → Except Halt (α × Cursor)
  | .ok a => .ok (a, c)
  | .error m => .error (.loose m c)

/-- Settles a mismatch at the cursor. -/
def settle {α : Type} : Except Halt α → Except Halt α
  | .error (.loose m c) => .error (.placed (c.fault (.mismatch m)))
  | r => r

/-- What a value would have been whose reading was not wanted. -/
def foundHere (fuel : Nat) (c : Cursor) : Except Fault (Found × Cursor) :=
  match c.peek with
  | none => c.stopAhead .wantedValue
  | some x =>
    if x = 'n' then (c.next.word ['u', 'l', 'l']).map fun c => (.null, c)
    else if x = 't' then (c.next.word ['r', 'u', 'e']).map fun c => (.flag true, c)
    else if x = 'f' then (c.next.word ['a', 'l', 's', 'e']).map fun c => (.flag false, c)
    else if x = '-' then
      (Json.readNumber true c.next).map fun (n, c) => ((Json.number n).found, c)
    else if x.isDigit then (Json.readNumber false c).map fun (n, c) => ((Json.number n).found, c)
    else if x = '\x22' then (Json.readString fuel c.next).map fun (s, c) => (.text s, c)
    else if x = '[' then .ok (.list, c)
    else if x = '\x7b' then .ok (.table, c)
    else c.stopAhead .wantedValue

def refuse {α : Type} (wanted : String) (fuel : Nat) (c : Cursor) : Except Halt α :=
  match foundHere fuel c with
  | .error f => .error (.placed f)
  | .ok (found, c) => .error (.placed (c.fault (.mismatch (.type found wanted))))

/-- Skips blanks in front of a value, which must be there. -/
def begin {α : Type} (c : Cursor) (read : Char → Cursor → Except Halt α) : Except Halt α :=
  let c := c.skipSpace
  match c.peek with
  | none => placed (c.stopAhead .endInValue)
  | some x => read x c

/-- Reads the end of a list whose items nobody asks for any more; says also where reading stops. -/
def closeList (c : Cursor) : Cursor × Option Fault :=
  let c := c.skipSpace
  match c.peek with
  | none => (c, some (c.faultAhead .endInList 1))
  | some x =>
    if x = ']' then (c.next, none)
    else if x = ',' then
      let c := c.next.skipSpace
      (c, some (c.faultAhead (if c.peek == some ']' then .trailingComma else .trailing) 1))
    else (c, some (c.faultAhead .trailing 1))

/-- Reads the end of an object; says also where reading stops. -/
def closeObject (c : Cursor) : Cursor × Option Fault :=
  let c := c.skipSpace
  match c.peek with
  | none => (c, some (c.faultAhead .endInObject 1))
  | some x =>
    if x = '\x7d' then (c.next, none)
    else (c, some (c.faultAhead (if x = ',' then .trailingComma else .trailing) 1))

/-- Ends a container. Its own mismatch comes before a fault at its end, and is placed there. -/
def finish {α : Type} (close : Cursor → Cursor × Option Fault) :
    Except Halt (α × Cursor) → Except Halt (α × Cursor)
  | .ok (a, c) =>
    match close c with
    | (c, none) => .ok (a, c)
    | (_, some f) => .error (.placed f)
  | .error (.loose m c) => .error (.placed ((close c).1.fault (.mismatch m)))
  | .error (.placed f) => .error (.placed f)

/-- Enters a container unless too many are open. -/
def enter {α : Type} (depth : Nat) (c : Cursor) (read : Nat → Cursor → Except Halt α) :
    Except Halt α :=
  if depth ≤ 1 then placed (c.stopAhead .tooDeep) else read (depth - 1) c.next

/-- Reads the items of a list up to its closing bracket. -/
def textSeries (read : TextReader) :
    Nat → Nat → Bool → List Datum → Cursor → Except Halt (List Datum × Cursor)
  | 0, _, _, _, c => placed (c.stop .endInList)
  | fuel + 1, depth, first, acc, c =>
    match c.nextItem first with
    | .error f => .error (.placed f)
    | .ok (false, c) => .ok (acc.reverse, c)
    | .ok (true, c) =>
      match read fuel depth c with
      | .error h => .error h
      | .ok (d, c) => textSeries read fuel depth false (d :: acc) c

/-- Reads the entries of an object up to its closing brace. -/
def textTable (read : TextReader) :
    Nat → Nat → Bool → List (String × Datum) → Cursor → Except Halt (List (String × Datum) × Cursor)
  | 0, _, _, _, c => placed (c.stop .endInObject)
  | fuel + 1, depth, first, acc, c =>
    match c.nextKey first with
    | .error f => .error (.placed f)
    | .ok (false, c) => .ok (acc, c)
    | .ok (true, c) =>
      match c.key fuel with
      | .error f => .error (.placed f)
      | .ok (k, c) =>
        match read fuel depth c with
        | .error h => .error h
        | .ok (d, c) => textTable read fuel depth false (Table.put k d acc) c

/-- Reads the fields of a record from an object, up to its closing brace. -/
def textFields (fields : List (Field TextReader)) :
    Nat → Nat → Bool → List (String × Datum) → Cursor → Except Halt (List (String × Datum) × Cursor)
  | 0, _, _, _, c => placed (c.stop .endInObject)
  | fuel + 1, depth, first, found, c =>
    match c.nextKey first with
    | .error f => .error (.placed f)
    | .ok (false, c) => loose c (assemble found fields)
    | .ok (true, c) =>
      match Json.readString fuel c.next with
      | .error f => .error (.placed f)
      | .ok (k, c) =>
        match findField k fields with
        | none =>
          match c.colon.bind (Cursor.skipValue fuel) with
          | .error f => .error (.placed f)
          | .ok c => textFields fields fuel depth false found c
        | some f =>
          if (found.lookup k).isSome then .error (.loose (.duplicate k) c)
          else
            match c.colon with
            | .error f => .error (.placed f)
            | .ok c =>
              match f.read fuel depth c with
              | .error h => .error h
              | .ok (d, c) => textFields fields fuel depth false ((k, d) :: found) c

/-- Reads the fields of a record from a list, in the order of declaration. -/
def textItems (name : String) (total : Nat) :
    List (Field TextReader) → Nat → Nat → Bool → Nat → Cursor →
      Except Halt (List (String × Datum) × Cursor)
  | [], _, _, _, _, c => .ok ([], c)
  | f :: fs, fuel, depth, first, index, c =>
    match c.nextItem first with
    | .error f => .error (.placed f)
    | .ok (false, c) => loose c (fill name total index (f :: fs))
    | .ok (true, c) =>
      match f.read fuel depth c with
      | .error h => .error h
      | .ok (d, c) =>
        (textItems name total fs fuel depth false (index + 1) c).map
          fun (ds, c) => ((f.name, d) :: ds, c)

def textRecord (name : String) (fields : List (Field TextReader)) : TextReader :=
  fun fuel depth c => begin c fun x c =>
    if x = '[' then
      enter depth c fun depth c =>
        finish closeList ((textItems name fields.length fields fuel depth true 0 c).map
          fun (ds, c) => (.record ds, c))
    else if x = '\x7b' then
      enter depth c fun depth c =>
        finish closeObject ((textFields fields fuel depth true [] c).map
          fun (ds, c) => (.record ds, c))
    else refuse s!"struct {name}" fuel c

/-- Reads a string and makes something of it. -/
def textString {α : Type} (wanted : String) (make : String → Except Mismatch α) (fuel : Nat)
    (c : Cursor) : Except Halt (α × Cursor) :=
  begin c fun x c =>
    if x = '\x22' then
      match Json.readString fuel c.next with
      | .error f => .error (.placed f)
      | .ok (s, c) => settle (loose c (make s))
    else refuse wanted fuel c

/-- A choice stands alone, or in an object with nothing behind its name. -/
def textChoice (tags : List String) : TextReader :=
  fun fuel depth c => begin c fun x c =>
    if x = '\x22' then textString "variant identifier" (choiceDatum tags) fuel c
    else if x = '\x7b' then
      enter depth c fun _ c =>
        match textString "variant identifier" (choiceDatum tags) fuel c with
        | .error h => .error h
        | .ok (d, c) =>
          match c.colon with
          | .error f => .error (.placed f)
          | .ok c => begin c fun x c =>
            if x = 'n' then
              match c.next.word ['u', 'l', 'l'] with
              | .error f => .error (.placed f)
              | .ok c =>
                let c := c.skipSpace
                match c.peek with
                | none => placed (c.stop .endInObject)
                | some y => if y = '\x7d' then .ok (d, c.next) else placed (c.stop .wantedValue)
            else refuse "unit" fuel c
    else placed (c.stopAhead .wantedValue)

def textWord (name : String) (low high : Int) : TextReader :=
  fun fuel _ c => begin c fun x c =>
    if x = '-' ∨ x.isDigit then
      match Json.readNumber (x == '-') (if x = '-' then c.next else c) with
      | .error f => .error (.placed f)
      | .ok (.integer n, c) => settle (loose c (wordDatum name low high n))
      | .ok (.real r, c) => settle (.error (.loose (.type (.real r) name) c))
    else refuse name fuel c

def textFlag : TextReader :=
  fun fuel _ c => begin c fun x c =>
    if x = 't' then placed ((c.next.word ['r', 'u', 'e']).map fun c => (.flag true, c))
    else if x = 'f' then placed ((c.next.word ['a', 'l', 's', 'e']).map fun c => (.flag false, c))
    else refuse "a boolean" fuel c

def textOptional (read : TextReader) : TextReader :=
  fun fuel depth c =>
    let c := c.skipSpace
    if c.peek == some 'n' then placed ((c.next.word ['u', 'l', 'l']).map fun c => (.absent, c))
    else (read fuel depth c).map fun (d, c) => (.present d, c)

def textMeasurement : TextReader :=
  fun fuel depth c =>
    match Json.readValue fuel depth c with
    | .error f => .error (.placed f)
    | .ok (j, c) => loose c (measurementDatum j)

mutual

def ofText : Schema → TextReader
  | text => fun fuel _ c => textString "a string" (fun s => .ok (.text s)) fuel c
  | flag => textFlag
  | word name low high => textWord name low high
  | choice _ tags => textChoice tags
  | optional item => textOptional (ofText item)
  | series item => fun fuel depth c => begin c fun x c =>
    if x = '[' then
      enter depth c fun depth c =>
        finish closeList ((textSeries (ofText item) fuel depth true [] c).map
          fun (ds, c) => (.series ds, c))
    else refuse "a sequence" fuel c
  | table item => fun fuel depth c => begin c fun x c =>
    if x = '\x7b' then
      enter depth c fun depth c =>
        finish closeObject ((textTable (ofText item) fuel depth true [] c).map
          fun (ds, c) => (.table ds, c))
    else refuse "a map" fuel c
  | record name fields => textRecord name (textFieldsOf fields)
  | measurement => textMeasurement
  | instant => fun fuel _ c => textString instantText instantDatum fuel c

def textFieldsOf : List (String × Schema × Option Datum) → List (Field TextReader)
  | [] => []
  | (name, s, default) :: r => ⟨name, ofText s, absence s default, default⟩ :: textFieldsOf r

end

/-- Reads a text that holds one value of the schema and nothing else. -/
def parse (s : Schema) (text : String) : Except Fault Datum :=
  match s.ofText (Json.fuelFor text.toList) Json.depthLimit (.ofString text) with
  | .error (.placed f) => .error f
  | .error (.loose m _) => .error ⟨.mismatch m, none⟩
  | .ok (d, c) => c.finish.map fun _ => d

end LiveTelemetry.Schema

namespace LiveTelemetry.Codec

/-- Reads a value from JSON text. -/
def parse {α : Type} (c : Codec α) (text : String) : Except Json.Fault α :=
  match c.schema.parse text with
  | .error f => .error f
  | .ok d => match c.ofDatum? d with
    | some a => .ok a
    | none => .error ⟨.mismatch (.other "unreadable"), none⟩

end LiveTelemetry.Codec
