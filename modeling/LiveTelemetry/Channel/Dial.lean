import LiveTelemetry.Url.Basic

/-!
What can be told of an address before anything is sent to it. An address is dialled only if it has
the form of a request target with a host and a port.
-/
namespace LiveTelemetry.Dial

/-- Why an address cannot be dialled. -/
inductive Refusal where
  | tooLong
  | schemeTooLong
  | badCharacter
  | badAuthority
  | badFormat
  /-- No port is given, and the scheme has none of its own. -/
  | unknownScheme
  deriving DecidableEq

def Refusal.message : Refusal → String
  | tooLong => "HTTP format error: uri too long"
  | schemeTooLong => "HTTP format error: scheme too long"
  | badCharacter => "HTTP format error: invalid uri character"
  | badAuthority => "HTTP format error: invalid authority"
  | badFormat => "HTTP format error: invalid format"
  | unknownScheme => "URL error: URL scheme not supported"

/-- The greatest length of a request target in octets. -/
def lengthLimit : Nat := 65534

def schemeLimit : Nat := 64

/-- Characters of authorities, apart from the percent sign. -/
def isAuthorityChar (c : Char) : Bool :=
  c.isAlphanum || "!$&\x27()*+,-.:;=@[]_~".toList.contains c

def endsAuthority (c : Char) : Bool := c == '/' || c == '?' || c == '#'

/-- What has been seen of an authority since its last `@` or closing bracket. -/
structure Seen where
  colons : Nat
  percent : Bool
  opened : Bool
  closed : Bool
  deriving DecidableEq

namespace Seen

def nothing : Seen := ⟨0, false, false, false⟩

def after (s : Seen) (c : Char) : Except Refusal Seen :=
  if c = ':' then
    if 8 ≤ s.colons then .error .badAuthority else .ok { s with colons := s.colons + 1 }
  else if c = '[' then
    if s.percent || s.opened then .error .badAuthority else .ok { s with opened := true }
  else if c = ']' then
    if !s.opened || s.closed then .error .badAuthority
    else .ok { s with closed := true, colons := 0, percent := false }
  else if c = '@' then .ok { s with colons := 0, percent := false }
  else if c = '%' then .ok { s with percent := true }
  else if isAuthorityChar c then .ok s
  else .error .badCharacter

def check (s : Seen) : Except Refusal Unit :=
  if s.opened != s.closed || 1 < s.colons || s.percent then .error .badAuthority else .ok ()

end Seen

def checkAuthority (cs : List Char) : Except Refusal Unit :=
  match cs.foldlM Seen.after Seen.nothing with
  | .error r => .error r
  | .ok s => if cs.getLast? = some '@' then .error .badAuthority else s.check

/-- The authority of an address that has one, or what stands in its place. -/
def authority (u : Url) : List Char :=
  match u.host with
  | some _ => (u.authorityText.toList.drop 2)
  | none => u.requestText.toList.takeWhile fun c => !endsAuthority c

/-- Whether the text of an address has the form of a request target. -/
def checkForm (u : Url) : Except Refusal Unit :=
  if lengthLimit < u.render.utf8ByteSize then .error .tooLong
  else if u.host.isSome && schemeLimit < u.scheme.length then .error .schemeTooLong
  else
    match checkAuthority (authority u) with
    | .error r => .error r
    | .ok () =>
      match u.host with
      | none => .error .badFormat
      | some h => if h = "" then .error .badFormat else .ok ()

/-- The port at which an address is dialled. -/
def port? (u : Url) : Option Nat :=
  u.port.or (if u.scheme = "ws" then some 80 else if u.scheme = "wss" then some 443 else none)

/-- Whether an address can be dialled. -/
def check (u : Url) : Except Refusal Unit :=
  match checkForm u with
  | .error r => .error r
  | .ok () => if (port? u).isSome then .ok () else .error .unknownScheme

end LiveTelemetry.Dial
