import LiveTelemetry.Toml.Scalar

/-!
Quoted text of TOML documents: on one line or on several, with escapes or literally.
-/
namespace LiveTelemetry.Toml

/-- Characters that text and comments may hold. -/
def isPlain (c : Char) : Bool := c == '\t' || (0x20 ≤ c.toNat && c != '\x7f')

def isTab (c : Char) : Bool := c == ' ' || c == '\t'

def skipTabs (cs : List Char) : List Char := cs.dropWhile isTab

def newline? : List Char → Option (List Char)
  | '\n' :: r => some r
  | '\r' :: '\n' :: r => some r
  | _ => none

/-- The character of a hexadecimal code of the given width. -/
def coded? (width : Nat) (cs : List Char) : Option (Char × List Char) := do
  let ds ← (cs.take width).mapM (digitValue? 16)
  let n := ds.foldl (fun n d => n * 16 + d) 0
  if ds.length = width ∧ n.isValidChar then some (Char.ofNat n, cs.drop width) else none

/-- What an escape behind the backslash stands for. -/
def escape? : List Char → Option (Char × List Char)
  | 'b' :: r => some ('\x08', r)
  | 't' :: r => some ('\t', r)
  | 'n' :: r => some ('\n', r)
  | 'f' :: r => some ('\x0c', r)
  | 'r' :: r => some ('\r', r)
  | 'e' :: r => some ('\x1b', r)
  | '\x22' :: r => some ('\x22', r)
  | '\\' :: r => some ('\\', r)
  | 'x' :: r => coded? 2 r
  | 'u' :: r => coded? 4 r
  | 'U' :: r => coded? 8 r
  | _ => none

/-- Blanks and line ends. -/
def isGap (c : Char) : Bool := isTab c || c == '\n' || c == '\r'

/-- Reads up to the closing quote, with `acc` read before. -/
def lineBody : Nat → List Char → List Char → Option (String × List Char)
  | 0, _, _ => none
  | _, _, [] => none
  | n + 1, acc, c :: r =>
    if c = '\x22' then some (String.ofList acc.reverse, r)
    else if c = '\\' then
      match escape? r with
      | none => none
      | some (x, r) => lineBody n (x :: acc) r
    else if isPlain c then lineBody n (c :: acc) r
    else none

def literalBody : List Char → List Char → Option (String × List Char)
  | _, [] => none
  | acc, c :: r =>
    if c = '\x27' then some (String.ofList acc.reverse, r)
    else if isPlain c then literalBody (c :: acc) r
    else none

/-- A run of quotes closes text of several lines if there are three to five of them; those before
the last three belong to the text. -/
def closing? (quote : Char) (acc cs : List Char) : Option (String × List Char) :=
  let n := (cs.takeWhile (· == quote)).length
  if 3 ≤ n then
    let kept := min (n - 3) 2
    some (String.ofList (acc.reverse ++ List.replicate kept quote), cs.drop (kept + 3))
  else none

def linesBody : Nat → List Char → List Char → Option (String × List Char)
  | 0, _, _ => none
  | _, _, [] => none
  | n + 1, acc, c :: r =>
    if c = '\x22' then
      match closing? '\x22' acc (c :: r) with
      | some done => some done
      | none => linesBody n (c :: acc) r
    else if c = '\\' then
      match newline? (skipTabs r) with
      | some r => linesBody n acc (r.dropWhile isGap)
      | none =>
        match escape? r with
        | none => none
        | some (x, r) => linesBody n (x :: acc) r
    else
      match newline? (c :: r) with
      | some r => linesBody n ('\n' :: acc) r
      | none => if isPlain c then linesBody n (c :: acc) r else none

def literalLinesBody : Nat → List Char → List Char → Option (String × List Char)
  | 0, _, _ => none
  | _, _, [] => none
  | n + 1, acc, c :: r =>
    if c = '\x27' then
      match closing? '\x27' acc (c :: r) with
      | some done => some done
      | none => literalLinesBody n (c :: acc) r
    else
      match newline? (c :: r) with
      | some r => literalLinesBody n ('\n' :: acc) r
      | none => if isPlain c then literalLinesBody n (c :: acc) r else none

/-- A line end right behind the opening quotes does not count. -/
def dropNewline (cs : List Char) : List Char := (newline? cs).getD cs

/-- Text on one line. -/
def quotedLine? : List Char → Option (String × List Char)
  | '\x22' :: r => lineBody (r.length + 1) [] r
  | '\x27' :: r => literalBody [] r
  | _ => none

def quoted? : List Char → Option (String × List Char)
  | '\x22' :: '\x22' :: '\x22' :: r => linesBody (r.length + 1) [] (dropNewline r)
  | '\x27' :: '\x27' :: '\x27' :: r => literalLinesBody (r.length + 1) [] (dropNewline r)
  | cs => quotedLine? cs

example : quoted? ['\x27', 'a', '\\', '\x27', '!'] = some ("a\\", ['!']) := by decide +kernel
example : quoted? "\x22\\u00e9\\x41\x22".toList = some ("éA", []) := by decide +kernel
example : quoted? "\x22\x22\x22\na\\\n  b\x22\x22\x22\x22\x22".toList =
    some ("ab\x22\x22", []) := by
  decide +kernel

end LiveTelemetry.Toml
