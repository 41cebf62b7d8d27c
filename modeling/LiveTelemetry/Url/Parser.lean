import LiveTelemetry.Url.Host

/-!
Reading addresses. Tabs and line ends are dropped wherever they stand, and so are controls and
blanks at the ends; backslashes count as slashes where the scheme is special.
-/
namespace LiveTelemetry.Url

def isTabOrLineEnd (c : Char) : Bool := c == '\t' || c == '\n' || c == '\r'

def isControlOrSpace (c : Char) : Bool := c.toNat ≤ 0x20

/-- The characters of an address that count. -/
def cleaned (cs : List Char) : List Char :=
  let trimmed := ((cs.dropWhile isControlOrSpace).reverse.dropWhile isControlOrSpace).reverse
  trimmed.filter fun c => !isTabOrLineEnd c

def isSchemeChar (c : Char) : Bool := c.isAlphanum || c == '+' || c == '-' || c == '.'

/-- The scheme in lower case, and what follows its colon. -/
def splitScheme? (cs : List Char) : Option (String × List Char) :=
  match cs.takeWhile isSchemeChar, cs.dropWhile isSchemeChar with
  | c :: s, ':' :: r =>
    if c.isAlpha then some (String.ofList ((c :: s).map Char.toLower), r) else none
  | _, _ => none

def isSlash (special : Bool) (c : Char) : Bool := c == '/' || (special && c == '\\')

/-- The characters that end an authority. -/
def endsAuthority (special : Bool) (c : Char) : Bool := isSlash special c || c == '?' || c == '#'

/-- User and password in encoded form. An empty password is none. -/
def userinfo (cs : List Char) : String × Option String :=
  let encode (cs : List Char) := String.ofList (percentEncode .userinfo cs)
  match cs.dropWhile (· ≠ ':') with
  | _ :: p :: ps => (encode (cs.takeWhile (· ≠ ':')), some (encode (p :: ps)))
  | _ => (encode (cs.takeWhile (· ≠ ':')), none)

/-- What stands before and behind the last `@`. -/
def splitLastAt (cs : List Char) : Option (List Char × List Char) :=
  if cs.contains '@' then
    let behind := (cs.reverse.takeWhile (· ≠ '@')).reverse
    some (cs.take (cs.length - behind.length - 1), behind)
  else none

/-- The host is what stands before a colon outside brackets. -/
def splitHost : Bool → List Char → List Char × List Char
  | _, [] => ([], [])
  | inside, c :: r =>
    if c = ':' ∧ !inside then ([], c :: r)
    else
      let (h, r) := splitHost (if c = '[' then true else if c = ']' then false else inside) r
      (c :: h, r)

def readPort (scheme : String) (cs : List Char) : Except Fault (Option Nat) :=
  if cs.all Char.isDigit then
    match numberInBase 10 cs with
    | none => .error .badPort
    | some n =>
      if 65535 < n then .error .badPort
      else .ok (if cs.isEmpty ∨ some n = defaultPort? scheme then none else some n)
  else .error .badPort

structure Authority where
  username : String
  password : Option String
  host : String
  port : Option Nat

/-- Reads an authority; the scheme is not that of files. -/
def authority (scheme : String) (cs : List Char) : Except Fault Authority :=
  let special := isSpecial scheme
  let (credentials, rest) := match splitLastAt cs with
    | none => (("", none), cs)
    | some (u, rest) => (userinfo u, rest)
  if rest.isEmpty ∧ (splitLastAt cs).isSome then .error .emptyHost
  else
    let (h, rest) := splitHost false rest
    if special ∧ h.isEmpty then .error .emptyHost
    else do
      let host ← if special then specialHost h else otherHost h
      if host = "" ∧ (!rest.isEmpty ∨ credentials.1 ≠ "" ∨ credentials.2.isSome) then
        throw .emptyHost
      let port ← readPort scheme (rest.drop 1)
      return ⟨credentials.1, credentials.2, host, port⟩

/-- The segments of a path, each with the sign whether a slash follows it. -/
def rawSegments (special : Bool) : List Char → List (List Char × Bool)
  | [] => [([], false)]
  | c :: r =>
    if isSlash special c then ([], true) :: rawSegments special r
    else match rawSegments special r with
      | [] => [([c], false)]
      | (s, b) :: ss => (c :: s, b) :: ss

def isSingleDot (s : List Char) : Bool :=
  ["." , "%2e"].contains (String.ofList (s.map Char.toLower))

def isDoubleDot (s : List Char) : Bool :=
  ["..", ".%2e", "%2e.", "%2e%2e"].contains (String.ofList (s.map Char.toLower))

/-- Adds a segment to a path. Two dots take the last segment away, one dot does nothing; at the
end of a path both leave an empty segment. -/
def addSegment (encode : List Char → List Char) (path : List String) (s : List Char × Bool) :
    List String :=
  let written := encode s.1
  let atEnd := if s.2 then [] else [""]
  if isDoubleDot written then path.dropLast ++ atEnd
  else if isSingleDot written then path ++ atEnd
  else path ++ [String.ofList written]

def pathOf (special : Bool) (cs : List Char) : List String :=
  (rawSegments special cs).foldl (addSegment (percentEncode .path)) []

/-- A path behind an authority. Where the scheme is special there always is one. -/
def pathAfterAuthority (special : Bool) (cs : List Char) : List String :=
  match cs with
  | [] => if special then [""] else []
  | c :: r => if isSlash special c then pathOf special r else pathOf special cs

def isQueryOrFragment (c : Char) : Bool := c == '?' || c == '#'

/-- Query and fragment, from the mark that begins them. -/
def queryAndFragment (special : Bool) (cs : List Char) : Option String × Option String :=
  let fragment (cs : List Char) := String.ofList (percentEncode .fragment cs)
  match cs with
  | '?' :: r =>
    let q := r.takeWhile (· ≠ '#')
    let set := if special then EncodeSet.specialQuery else EncodeSet.query
    (some (String.ofList (percentEncode set q)), match r.drop q.length with
      | _ :: f => some (fragment f)
      | [] => none)
  | _ :: f => (none, some (fragment f))
  | [] => (none, none)

/-- Reads what follows the slashes in front of an authority. -/
def afterSlashes (scheme : String) (cs : List Char) : Except Fault Url := do
  let special := isSpecial scheme
  let a := cs.takeWhile fun c => !endsAuthority special c
  let rest := cs.drop a.length
  let authority ← authority scheme a
  let p := rest.takeWhile fun c => !isQueryOrFragment c
  let (query, fragment) := queryAndFragment special (rest.drop p.length)
  return ⟨scheme, authority.username, authority.password, some authority.host, authority.port,
    .segments (pathAfterAuthority special p), query, fragment⟩

/-- Reads the address of a file, whose host may be missing. Drive letters and empty segments in front,
which mean something of their own in such addresses, are left out: they count as any host or segment.
No address of a file is ever dialled or sent to, so that it can show in failures only. -/
def fileAddress (cs : List Char) : Except Fault Url := do
  let (h, rest) := match cs with
    | a :: b :: r =>
      if isSlash true a ∧ isSlash true b then
        let h := r.takeWhile fun c => !endsAuthority true c
        (h, r.drop h.length)
      else ([], cs)
    | _ => ([], cs)
  let host ← if h.isEmpty then pure "" else specialHost h
  let p := rest.takeWhile fun c => !isQueryOrFragment c
  let (query, fragment) := queryAndFragment true (rest.drop p.length)
  return ⟨"file", "", none, some (if host = "localhost" then "" else host), none,
    .segments (pathAfterAuthority true p), query, fragment⟩

/-- Reads an address without an authority. -/
def bareAddress (scheme : String) (cs : List Char) : Url :=
  let p := cs.takeWhile fun c => !isQueryOrFragment c
  let (query, fragment) := queryAndFragment false (cs.drop p.length)
  let path := match p with
    | '/' :: r => Path.segments (pathOf false r)
    | p => Path.plain (String.ofList (percentEncode .controls p))
  ⟨scheme, "", none, none, none, path, query, fragment⟩

def parseChars (cs : List Char) : Except Fault Url :=
  match splitScheme? (cleaned cs) with
  | none => .error .noBase
  | some (scheme, r) =>
    if scheme = "file" then fileAddress r
    else if isSpecial scheme then afterSlashes scheme (r.dropWhile (isSlash true))
    else match r with
      | '/' :: '/' :: r => afterSlashes scheme r
      | r => .ok (bareAddress scheme r)

def parse (s : String) : Except Fault Url := parseChars s.toList

/-- The path without one empty segment at its end. -/
def dropEmptySegment (path : List String) : List String :=
  if path.length ≤ 1 then path
  else if path.getLast? = some "" then path.dropLast else path

/-- Adds a name to a path as one segment. Names of one or two dots are passed over. -/
def addName (special : Bool) (path : List String) (name : String) : List String :=
  if name = "." ∨ name = ".." then path
  else
    let set := if special then EncodeSet.specialPathSegment else EncodeSet.pathSegment
    let cs := name.toList.filter fun c => !isTabOrLineEnd c
    addSegment (percentEncode set) (if path = [""] then [] else path) (cs, false)

/-- Adds names to the path; `none` where the path has no structure. -/
def addNames? (names : List String) (u : Url) : Option Url :=
  match u.path with
  | .plain _ => none
  | .segments path =>
    let path := names.foldl (addName (isSpecial u.scheme)) (dropEmptySegment path)
    some { u with path := .segments path }

/-- Adds pairs of a form to the query. -/
def addPairs (pairs : List (String × String)) (u : Url) : Url :=
  let old := u.query.getD ""
  let new := String.intercalate "&" (pairs.map fun p => String.ofList (formPair p))
  { u with query := some (if old = "" then new else old ++ "&" ++ new) }

example : (parse " HTTP://u:p@EXAMPLE.com:80/./a/../b c?x='y#z ").toOption.map render =
    some "http://u:p@example.com/b%20c?x=%27y#z" := by decide +kernel
example : (parse "ws://h:65536").toOption = none := by decide +kernel
example : ((parse "http://h/api/").toOption.bind (addNames? ["start", "a/b"])).map render =
    some "http://h/api/start/a%2Fb" := by decide +kernel

end LiveTelemetry.Url
