/-!
Addresses of resources, in normal form: every part is kept as it is written.
-/
namespace LiveTelemetry

namespace Url

/-- Why a text is no address. -/
inductive Fault where
  | noBase
  | emptyHost
  | badPort
  | badIpv4
  | badIpv6
  | badInternationalName
  | badHostCharacter
  deriving DecidableEq

def Fault.message : Fault → String
  | noBase => "relative URL without a base"
  | emptyHost => "empty host"
  | badPort => "invalid port number"
  | badIpv4 => "invalid IPv4 address"
  | badIpv6 => "invalid IPv6 address"
  | badInternationalName => "invalid international domain name"
  | badHostCharacter => "invalid domain character"

/-- A path is a text without structure, or a list of segments that slashes precede. -/
inductive Path where
  | plain (s : String)
  | segments (ss : List String)
  deriving DecidableEq

/-- Schemes whose addresses always have a host and a path. -/
def isSpecial (scheme : String) : Bool :=
  ["http", "https", "ws", "wss", "ftp", "file"].contains scheme

def defaultPort? (scheme : String) : Option Nat :=
  match scheme with
  | "http" => some 80
  | "ws" => some 80
  | "https" => some 443
  | "wss" => some 443
  | "ftp" => some 21
  | _ => none

end Url

structure Url where
  scheme : String
  username : String
  password : Option String
  host : Option String
  /-- The port, unless it is the default one of the scheme. -/
  port : Option Nat
  path : Url.Path
  query : Option String
  fragment : Option String
  deriving DecidableEq

namespace Url

def hasCredentials (u : Url) : Bool := u.username ≠ "" || u.password.isSome

def userinfoText (u : Url) : String :=
  if u.hasCredentials then
    u.username ++ (match u.password with
      | none => ""
      | some p => ":" ++ p) ++ "@"
  else ""

def portText (u : Url) : String :=
  match u.port with
  | none => ""
  | some n => ":" ++ toString n

def authorityText (u : Url) : String :=
  match u.host with
  | none => ""
  | some h => "//" ++ u.userinfoText ++ h ++ u.portText

def Path.text : Path → String
  | plain s => s
  | segments ss => String.join (ss.map ("/" ++ ·))

/-- The path as it is written. Without a host, a path must not look like one. -/
def pathText (u : Url) : String :=
  match u.host, u.path with
  | none, .segments ("" :: s :: ss) => "/." ++ (Path.segments ("" :: s :: ss)).text
  | _, p => p.text

/-- The address without its fragment. -/
def requestText (u : Url) : String :=
  u.scheme ++ ":" ++ u.authorityText ++ u.pathText ++ (match u.query with
    | none => ""
    | some q => "?" ++ q)

def render (u : Url) : String :=
  u.requestText ++ (match u.fragment with
    | none => ""
    | some f => "#" ++ f)

/-- The address without user and password. -/
def withoutCredentials (u : Url) : Url := { u with username := "", password := none }

/-- Whether the path is a text without structure, so that nothing can be added to it. -/
def isPlain (u : Url) : Bool :=
  match u.path with
  | .plain _ => true
  | .segments _ => false

end Url
end LiveTelemetry
