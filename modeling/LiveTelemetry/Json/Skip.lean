import LiveTelemetry.Json.Reader

/-!
Passing over a JSON value that nobody asked for. Its grammar is checked, but not its nesting, not
the range of its numbers, and not the pairing of surrogates.
-/
namespace LiveTelemetry.Json

namespace Cursor

/-- Passes over a string behind its opening quote. -/
def skipString : Nat → Cursor → Except Fault Cursor
  | 0, c => c.stop .endInString
  | fuel + 1, c =>
    match c.rest with
    | [] => c.stop .endInString
    | x :: _ =>
      if x = '\x22' then .ok c.next
      else if x = '\\' then
        match c.next.rest with
        | [] => c.next.stop .endInString
        | y :: _ =>
          if (simpleEscape? y).isSome then skipString fuel c.next.next
          else if y = 'u' then
            match hexEscape c.next.next with
            | .error f => .error f
            | .ok (_, c) => skipString fuel c
          else c.next.stopAhead .badEscape
      else if x.toNat < 0x20 then c.stop .controlCharacter
      else skipString fuel c.next

def skipExponent (c : Cursor) : Except Fault Cursor :=
  let c := if c.peek == some '+' || c.peek == some '-' then c.next else c
  match c.digits with
  | ([], _) => c.stopAhead .badNumber
  | (_, c) => .ok c

/-- Passes over a number behind its sign. -/
def skipNumber (c : Cursor) : Except Fault Cursor :=
  match c.digits with
  | ([], _) => c.stopAhead .badNumber
  | ('0' :: _ :: _, _) => c.next.stopAhead .badNumber
  | (_, c) =>
    if c.peek == some '.' then
      match c.next.digits with
      | ([], _) => c.next.stopAhead .badNumber
      | (_, c) => if isExponentLetter c.peek then c.next.skipExponent else .ok c
    else if isExponentLetter c.peek then c.next.skipExponent
    else .ok c

/-- Passes over a value that is no container; `none` in front of a container. -/
def skipScalar (fuel : Nat) (c : Cursor) : Except Fault (Option Cursor) :=
  match c.peek with
  | none => c.stopAhead .endInValue
  | some x =>
    if x = 'n' then (c.next.word ['u', 'l', 'l']).map some
    else if x = 't' then (c.next.word ['r', 'u', 'e']).map some
    else if x = 'f' then (c.next.word ['a', 'l', 's', 'e']).map some
    else if x = '-' then c.next.skipNumber.map some
    else if x.isDigit then c.skipNumber.map some
    else if x = '\x22' then (c.next.skipString fuel).map some
    else if x = '[' ∨ x = '\x7b' then .ok none
    else c.stopAhead .wantedValue

/-- Passes over a key and its colon. -/
def skipKey (fuel : Nat) (c : Cursor) : Except Fault Cursor :=
  let c := c.skipSpace
  match c.peek with
  | none => c.stopAhead .endInObject
  | some x =>
    if x ≠ '\x22' then c.stopAhead .keyNotString
    else
      match c.next.skipString fuel with
      | .error f => .error f
      | .ok c => c.colon

/-- What comes next inside the containers that are open, the innermost first; `true` stands for an
object, and `afterItem` says whether an item has just ended. -/
def skipMore : Nat → List Bool → Bool → Cursor → Except Fault (List Bool × Cursor)
  | 0, _, _, c => c.stop .endInValue
  | _, [], _, c => .ok ([], c)
  | fuel + 1, isObject :: outer, afterItem, c =>
    let c := c.skipSpace
    match c.peek with
    | none => c.stopAhead (if isObject then .endInObject else .endInList)
    | some x =>
      if x = ',' ∧ afterItem then .ok (isObject :: outer, c.next)
      else if x = (if isObject then '\x7d' else ']') then skipMore fuel outer true c.next
      else if afterItem then c.stopAhead (if isObject then .wantedObjectEnd else .wantedListEnd)
      else .ok (isObject :: outer, c)

/-- Passes over items until no container is open. -/
def skipItems : Nat → List Bool → Cursor → Except Fault Cursor
  | 0, _, c => c.stop .endInValue
  | fuel + 1, containers, c =>
    let c := c.skipSpace
    match c.skipScalar fuel with
    | .error f => .error f
    | .ok s =>
      let (containers, afterItem, c) := match s with
        | some c => (containers, true, c)
        | none => ((c.peek == some '\x7b') :: containers, false, c.next)
      match skipMore (fuel + 1) containers afterItem c with
      | .error f => .error f
      | .ok ([], c) => .ok c
      | .ok (isObject :: outer, c) =>
        if isObject then
          match c.skipKey fuel with
          | .error f => .error f
          | .ok c => skipItems fuel (isObject :: outer) c
        else skipItems fuel (isObject :: outer) c

def skipValue (fuel : Nat) (c : Cursor) : Except Fault Cursor := skipItems fuel [] c

end Cursor
end LiveTelemetry.Json
