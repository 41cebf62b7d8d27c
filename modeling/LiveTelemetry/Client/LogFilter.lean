import LiveTelemetry.Link.Notifier
import LiveTelemetry.Number.Numeral
import LiveTelemetry.Text.Blank
import LiveTelemetry.Text.Parts

/-!
Which lines of the log are written. A filter is a list of directives, each a level for the sources
whose names start in a given way; of those that match a source, the one with the longest name
counts.
-/
namespace LiveTelemetry

def LogLevel.rank : LogLevel → Nat
  | error => 1
  | warn => 2
  | info => 3
  | debug => 4
  | trace => 5

structure LogFilter.Directive where
  /-- The start of the names of sources. -/
  source : String
  /-- The greatest rank of a level that is written. -/
  rank : Nat
  /-- Whether the directive is about lines within spans only. -/
  spanOnly : Bool
  deriving DecidableEq

structure LogFilter where
  directives : List LogFilter.Directive
  deriving DecidableEq

namespace LogFilter

inductive Fault where
  | badLevel
  | badDirective
  deriving DecidableEq

def Fault.message : Fault → String
  | badLevel =>
    "error parsing level filter: expected one of \x22off\x22, \x22error\x22, \x22warn\x22, " ++
      "\x22info\x22, \x22debug\x22, \x22trace\x22, or a number 0-5"
  | badDirective => "invalid filter directive"

/-- The rank that a text names. -/
def rank? (s : String) : Option Nat :=
  match Numeral.natural? s.toList with
  | some n => if n ≤ 5 then some n else none
  | none =>
    match String.ofList (s.toList.map Char.toLower) with
    | "" => some 1
    | "off" => some 0
    | "error" => some 1
    | "warn" => some 2
    | "info" => some 3
    | "debug" => some 4
    | "trace" => some 5
    | _ => none

def isStart (c : Char) : Bool :=
  c.isAlphanum || c == '-' || c == ':' || c == '_' || 0x80 ≤ c.toNat

/-- The level behind an equals sign; none means every level. -/
def levelBehind (cs : List Char) : Except Fault Nat :=
  if cs = [] then .ok 5
  else match rank? (String.ofList cs) with
    | some n => .ok n
    | none => .error .badLevel

/-- A directive about spans, behind its opening bracket. -/
def parseSpan (source : String) (cs : List Char) : Except Fault Directive :=
  match cs.dropWhile (· ≠ ']') with
  | [_] => .ok ⟨source, 5, true⟩
  | _ :: '=' :: level => (levelBehind level).map (⟨source, ·, true⟩)
  | _ => .error .badDirective

def parseDirective (s : String) : Except Fault Directive :=
  match Text.trimChars s.toList with
  | [] => .error .badDirective
  | '[' :: r => parseSpan "" r
  | c :: r =>
    if !isStart c then .error .badDirective
    else
      let isEnd := fun c => c == '=' || c == '['
      let name := String.ofList ((c :: r).takeWhile fun c => !isEnd c)
      match (c :: r).dropWhile fun c => !isEnd c with
      | '=' :: level => (levelBehind level).map (⟨name, ·, false⟩)
      | '[' :: r => parseSpan name r
      | _ =>
        match rank? name with
        | some n => .ok ⟨"", n, false⟩
        | none => .ok ⟨name, 5, false⟩

/-- Without directives, errors are written. -/
def ofDirectives (ds : List Directive) : LogFilter :=
  ⟨if ds = [] then [⟨"", 1, false⟩] else ds⟩

/-- A filter whose directives must all be valid. -/
def parse (s : String) : Except Fault LogFilter :=
  ((Text.parts ',' s).mapM parseDirective).map ofDirectives

/-- A filter without the directives that are not valid, and what is said about those. -/
def parseLossy (s : String) : LogFilter × List String :=
  let read := (Text.parts ',' s).map fun p => (p, parseDirective p)
  (ofDirectives (read.filterMap fun r => r.2.toOption),
    read.filterMap fun r => match r.2 with
      | .ok _ => none
      | .error f => some ("ignoring \x60" ++ r.1 ++ "\x60: " ++ f.message))

/-- The filter of the variable, if it holds a valid one, and else of the configured level. -/
def choose (given : Option String) (level : String) : LogFilter × List String :=
  match given.map parse with
  | some (.ok f) => (f, [])
  | _ => parseLossy level

/-- Of two directives that match, the later one counts unless its source is shorter. -/
def better (a : Option Directive) (b : Directive) : Option Directive :=
  match a with
  | none => some b
  | some d => if b.source.length < d.source.length then some d else some b

def allows (f : LogFilter) (source : String) (l : LogLevel) : Bool :=
  let matching := f.directives.filter fun d =>
    !d.spanOnly && d.source.toList.isPrefixOf source.toList
  match matching.foldl better none with
  | none => false
  | some d => l.rank ≤ d.rank

example : (choose none "warn").1.allows "netpulse" .error = true ∧
    (choose none "warn").1.allows "netpulse" .info = false := by decide +kernel
example : (choose (some "debug,netpulse=off") "info").1.allows "netpulse" .error = false := by
  decide +kernel
example : (choose (some "") "info").1.allows "netpulse" .warn = false := by decide +kernel

end LogFilter
end LiveTelemetry
