import LiveTelemetry.Toml.Quoted

/-!
TOML documents: keys, values, and the statements of a document in their order.
-/
namespace LiveTelemetry.Toml

def isKeyChar (c : Char) : Bool := c.isAlphanum || c == '_' || c == '-'

def simpleKey? (cs : List Char) : Option (String × List Char) :=
  match cs with
  | [] => none
  | c :: _ =>
    if c = '\x22' ∨ c = '\x27' then quotedLine? cs
    else
      match cs.takeWhile isKeyChar with
      | [] => none
      | k => some (String.ofList k, cs.dropWhile isKeyChar)

/-- Reads a key whose parts are joined by dots. -/
def key? : Nat → List Char → Option ((List String × String) × List Char)
  | 0, _ => none
  | n + 1, cs => do
    let (k, r) ← simpleKey? (skipTabs cs)
    match skipTabs r with
    | '.' :: r =>
      let ((path, last), r) ← key? n r
      return ((k :: path, last), r)
    | r => return (([], k), r)

/-- Drops a comment, up to the end of its line. -/
def dropComment? (cs : List Char) : Option (List Char) :=
  match cs with
  | '#' :: r =>
    let rest := r.dropWhile isPlain
    if rest = [] ∨ (newline? rest).isSome then some rest else none
  | _ => some cs

/-- Drops blanks, line ends and comments. -/
def dropGaps? : Nat → List Char → Option (List Char)
  | 0, _ => none
  | n + 1, cs =>
    match skipTabs cs with
    | '#' :: r => (dropComment? ('#' :: r)).bind (dropGaps? n)
    | cs =>
      match newline? cs with
      | some r => dropGaps? n r
      | none => some cs

def isBareChar (c : Char) : Bool :=
  c.isAlphanum || c == '_' || c == '-' || c == '+' || c == '.' || c == ':'

/-- Whether a time of day follows a blank. -/
def timeFollows : List Char → Bool
  | ' ' :: a :: b :: ':' :: _ => a.isDigit && b.isDigit
  | _ => false

/-- Reads a value without quotes and brackets; one blank may stand between a date and a time. -/
def bare? (cs : List Char) : Option (Toml × List Char) :=
  let run := cs.takeWhile isBareChar
  let rest := cs.dropWhile isBareChar
  if timeFollows rest && ((Moment.date? run).map Prod.snd) == some [] then
    let time := (rest.drop 1).takeWhile isBareChar
    (scalar? (run ++ ' ' :: time)).map (·, (rest.drop 1).dropWhile isBareChar)
  else (scalar? run).map (·, rest)

/-- Reads the items of a list behind its bracket. A comma may stand behind the last one. -/
def items? (item : List Char → Option (Toml × List Char)) :
    Nat → List Char → Option (List Toml × List Char)
  | 0, _ => none
  | n + 1, cs => do
    match ← dropGaps? (n + 1) cs with
    | ']' :: r => return ([], r)
    | cs =>
      let (v, r) ← item cs
      match ← dropGaps? (n + 1) r with
      | ',' :: r =>
        let (vs, r) ← items? item n r
        return (v :: vs, r)
      | ']' :: r => return ([v], r)
      | _ => none

/-- Reads the pairs of a table behind its brace. -/
def pairs? (item : List Char → Option (Toml × List Char)) :
    Nat → Nodes → List Char → Option (Nodes × List Char)
  | 0, _, _ => none
  | n + 1, ns, cs => do
    match ← dropGaps? (n + 1) cs with
    | '\x7d' :: r => return (ns, r)
    | cs =>
      let ((path, key), r) ← key? (n + 1) cs
      match r with
      | '=' :: r =>
        let (v, r) ← item (skipTabs r)
        let ns ← ns.addPair path key v
        match ← dropGaps? (n + 1) r with
        | ',' :: r => pairs? item n ns r
        | '\x7d' :: r => return (ns, r)
        | _ => none
      | _ => none

/-- Reads a value; lists and tables nest at most as deep as the first argument says. -/
def value? : Nat → List Char → Option (Toml × List Char)
  | 0, '[' :: _ => none
  | 0, '\x7b' :: _ => none
  | d + 1, '[' :: r => (items? (value? d) (r.length + 1) r).map fun (vs, r) => (list vs, r)
  | d + 1, '\x7b' :: r =>
    (pairs? (value? d) (r.length + 1) [] r).map fun (ns, r) => (table (closeEntries ns), r)
  | _, cs =>
    match quoted? cs with
    | some (s, r) => some (text s, r)
    | none => bare? cs

def depthLimit : Nat := 80

/-- The path of a header, its last name apart. -/
abbrev Header := List String × String

inductive Statement where
  | pair (key : Header) (value : Toml)
  | table (header : Header)
  | element (header : Header)

/-- Drops what may follow a statement on its line. -/
def lineEnd? (cs : List Char) : Option (List Char) := do
  let r ← dropComment? (skipTabs cs)
  if r = [] then some [] else newline? r

def statement? (n : Nat) : List Char → Option (Statement × List Char)
  | '[' :: '[' :: r => do
    let (header, r) ← key? n r
    match r with
    | ']' :: ']' :: r => (lineEnd? r).map (Statement.element header, ·)
    | _ => none
  | '[' :: r => do
    let (header, r) ← key? n r
    match r with
    | ']' :: r => (lineEnd? r).map (Statement.table header, ·)
    | _ => none
  | cs => do
    let (key, r) ← key? n cs
    match r with
    | '=' :: r =>
      let (v, r) ← value? depthLimit (skipTabs r)
      (lineEnd? r).map (Statement.pair key v, ·)
    | _ => none

def statements? : Nat → List Char → Option (List Statement)
  | 0, _ => none
  | n + 1, cs => do
    match ← dropGaps? (n + 1) cs with
    | [] => return []
    | cs =>
      let (s, r) ← statement? (n + 1) cs
      return s :: (← statements? n r)

/-- Carries out statements, in the table of the header that was read last. -/
def build? : List String → Nodes → List Statement → Option Nodes
  | _, ns, [] => some ns
  | header, ns, .pair (path, key) v :: ss => do
    build? header (← ns.within header (·.addPair path key v)) ss
  | _, ns, .table (path, key) :: ss => do
    build? (path ++ [key]) (← ns.within path (·.openTable key)) ss
  | _, ns, .element (path, key) :: ss => do
    build? (path ++ [key]) (← ns.within path (·.openElement key)) ss

/-- The entries of a document; `none` when the text is no document. -/
def parse? (s : String) : Option (List (String × Toml)) := do
  let cs := match s.toList with
    | '\uFEFF' :: r => r
    | cs => cs
  let ns ← build? [] [] (← statements? (cs.length + 1) cs)
  return closeEntries ns

end LiveTelemetry.Toml
