import LiveTelemetry.Text.Lower
import LiveTelemetry.Text.Parts
import LiveTelemetry.Text.Printable
import LiveTelemetry.Url.Basic
import LiveTelemetry.Url.Encoding
import LiveTelemetry.Url.Punycode

/-!
Hosts of addresses: domain names in ASCII form, and numeric addresses in their normal form.
Letters are mapped to lower case and wide forms to their narrow ones; other mappings of domain
names are not made.
-/
namespace LiveTelemetry.Url

/-- The number of a digit string in a base; `none` if a character is no digit. -/
def numberInBase (base : Nat) (cs : List Char) : Option Nat :=
  cs.foldl (fun n c => match n, hexDigit? c with
    | some n, some d => if d < base then some (n * base + d) else none
    | _, _ => none) (some 0)

/-- A number of a numeric address: octal behind `0`, hexadecimal behind `0x`. -/
def ipv4Number? : List Char → Option Nat
  | [] => none
  | '0' :: 'x' :: r => numberInBase 16 r
  | '0' :: 'X' :: r => numberInBase 16 r
  | '0' :: c :: r => numberInBase 8 (c :: r)
  | cs => numberInBase 10 cs

/-- A domain whose last label is a number must be a numeric address. -/
def endsInNumber (domain : List Char) : Bool :=
  let last := match (Text.splitAt '.' domain).reverse with
    | [] :: l :: _ => some l
    | [] :: [] => none
    | l :: _ => some l
    | [] => none
  match last with
  | none => false
  | some l => (!l.isEmpty && l.all Char.isDigit) || (ipv4Number? l).isSome

/-- The address that numbers stand for; the last one fills all octets that are left. -/
def ipv4Value? (numbers : List Nat) : Option Nat :=
  match numbers.reverse with
  | [] => none
  | last :: others =>
    let others := others.reverse
    if 1 <<< (8 * (4 - others.length)) ≤ last ∨ others.any (255 < ·) then none
    else some (((others.zipIdx.map fun (n, i) => n <<< (8 * (3 - i))).foldl (· + ·) 0) + last)

def ipv4Text (n : Nat) : String :=
  ".".intercalate ([n >>> 24, (n >>> 16) % 256, (n >>> 8) % 256, n % 256].map toString)

def ipv4 (domain : List Char) : Except Fault String :=
  let parts := Text.splitAt '.' domain
  let parts := if parts.getLast? = some [] then parts.dropLast else parts
  match if parts.length ≤ 4 then (parts.mapM ipv4Number?).bind ipv4Value? else none with
  | none => .error .badIpv4
  | some n => .ok (ipv4Text n)

/-- The octets of a dotted address inside an IPv6 address, each without leading zeros. -/
def dottedOctets? (cs : List Char) : Option (List Nat) :=
  let parts := Text.splitAt '.' cs
  if parts.length ≠ 4 then none
  else parts.mapM fun p =>
    match p with
    | [] => none
    | '0' :: _ :: _ => none
    | p =>
      if !p.all Char.isDigit then none
      else (numberInBase 10 p).bind fun n => if n ≤ 255 then some n else none

/-- The pieces of a run without `::`; a dotted address may stand at its end. -/
def ipv6Run? : List (List Char) → Option (List Nat)
  | [] => some []
  | [p] =>
    if p.contains '.' then
      match dottedOctets? p with
      | some [a, b, c, d] => some [a * 256 + b, c * 256 + d]
      | _ => none
    else if p.isEmpty ∨ 4 < p.length then none
    else (numberInBase 16 p).map ([·])
  | p :: ps =>
    if p.isEmpty ∨ 4 < p.length then none
    else match numberInBase 16 p, ipv6Run? ps with
      | some n, some ns => some (n :: ns)
      | _, _ => none

/-- What stands before and behind the first `::`. -/
def splitDouble : List Char → Option (List Char × List Char)
  | ':' :: ':' :: r => some ([], r)
  | [] => none
  | c :: r => (splitDouble r).map fun (a, b) => (c :: a, b)

def ipv6Pieces? (cs : List Char) : Option (List Nat) :=
  let run (cs : List Char) := if cs.isEmpty then some [] else ipv6Run? (Text.splitAt ':' cs)
  match splitDouble cs with
  | none => (run cs).filter fun ps => ps.length = 8
  | some (a, b) =>
    match run a, run b with
    | some xs, some ys =>
      if a.contains '.' ∨ 8 ≤ xs.length + ys.length then none
      else some (xs ++ List.replicate (8 - xs.length - ys.length) 0 ++ ys)
    | _, _ => none

/-- The first longest run of zeros, as start and length. -/
def longestZeros (ps : List Nat) : Nat × Nat :=
  (List.range ps.length).foldl (fun best i =>
    let n := ((ps.drop i).takeWhile (· == 0)).length
    if best.2 < n then (i, n) else best) (0, 0)

def ipv6Text (ps : List Nat) : String :=
  let hex (ns : List Nat) := ":".intercalate (ns.map fun n => String.ofList (Nat.toDigits 16 n))
  let (start, n) := longestZeros ps
  if n < 2 then "[" ++ hex ps ++ "]"
  else "[" ++ hex (ps.take start) ++ "::" ++ hex (ps.drop (start + n)) ++ "]"

def ipv6 (cs : List Char) : Except Fault String :=
  match ipv6Pieces? cs with
  | none => .error .badIpv6
  | some ps => .ok (ipv6Text ps)

/-- The mapping of one character of a domain name. -/
def mapDomainChar (c : Char) : List Char :=
  let n := c.toNat
  if n < 0x80 then [c.toLower]
  else if n = 0xAD ∨ n = 0x200B ∨ n = 0x2060 ∨ n = 0xFEFF then []
  else if n = 0x3002 ∨ n = 0xFF0E ∨ n = 0xFF61 then ['.']
  else if 0xFF01 ≤ n ∧ n ≤ 0xFF5E then [(Char.ofNat (n - 0xFEE0)).toLower]
  else if n = 0x1E9E then ['s', 's']
  else Text.lowerChar c

/-- ASCII characters that no domain name holds. -/
def isForbiddenInDomain (c : Char) : Bool :=
  c.toNat ≤ 0x20 || c.toNat == 0x7F ||
    ['%', '#', '/', ':', '<', '>', '?', '@', '[', '\\', ']', '^', '|'].contains c

def isValidLabelChar (c : Char) : Bool :=
  if c.toNat < 0x80 then !isForbiddenInDomain c && !c.isUpper
  else !Text.isHidden c && mapDomainChar c == [c]

def punycodeMark : List Char := ['x', 'n', '-', '-']

/-- The ASCII form of a label; a label that is already in that form must be what encoding gives. -/
def asciiLabel? (label : List Char) : Option (List Char) :=
  if label.any fun c => 0x80 ≤ c.toNat then
    if label.all isValidLabelChar then some (punycodeMark ++ Punycode.encode label) else none
  else if label.any isForbiddenInDomain then none
  else if punycodeMark.isPrefixOf label then
    match Punycode.decode? (label.drop 4) with
    | none => none
    | some u =>
      if u.all isValidLabelChar && (u.any fun c => 0x80 ≤ c.toNat) &&
          Punycode.encode u == label.drop 4 then some label
      else none
  else some label

def domainToAscii? (domain : List Char) : Option (List Char) :=
  ((Text.splitAt '.' (domain.flatMap mapDomainChar)).mapM asciiLabel?).map (Text.joinWith '.')

/-- The host of an address whose scheme is special. -/
def specialHost (cs : List Char) : Except Fault String :=
  match cs with
  | '[' :: r => if r.getLast? = some ']' then ipv6 r.dropLast else .error .badIpv6
  | cs =>
    match (Text.Utf8.decode? (percentDecode cs)).bind fun s => domainToAscii? s.toList with
    | none => .error .badInternationalName
    | some [] => .error .emptyHost
    | some domain => if endsInNumber domain then ipv4 domain else .ok (String.ofList domain)

/-- The host of any other address: its characters are encoded and otherwise kept. -/
def otherHost (cs : List Char) : Except Fault String :=
  match cs with
  | '[' :: r => if r.getLast? = some ']' then ipv6 r.dropLast else .error .badIpv6
  | cs =>
    let bad := ['\x00', '\t', '\n', '\r', ' ', '#', '/', ':', '<', '>', '?', '@', '[', '\\', ']',
      '^', '|']
    if cs.any bad.contains then .error .badHostCharacter
    else .ok (String.ofList (percentEncode .controls cs))

example : (specialHost "EX%41mple.日本".toList).toOption = some "example.xn--wgv71a" := by
  decide +kernel
example : (specialHost "0x7f.1".toList).toOption = some "127.0.0.1" := by decide +kernel
example : (specialHost "1.2.3.256".toList).toOption = none := by decide +kernel
example : (specialHost "[1:0:0:2::]".toList).toOption = some "[1:0:0:2::]" := by decide +kernel
example : (specialHost "[::1.2.3.4]".toList).toOption = some "[::102:304]" := by decide +kernel
example : (specialHost "[::1".toList).toOption = none := by decide +kernel
example : (specialHost "xn--a".toList).toOption = none := by decide +kernel

end LiveTelemetry.Url
