import LiveTelemetry.Control.Request
import LiveTelemetry.Http.Status
import LiveTelemetry.Json.Reader

/-!
What becomes of a request: an answer of the service, or none.
-/
namespace LiveTelemetry

inductive Exchange where
  /-- An answer; a body that cannot be read counts as empty. -/
  | answered (status : UInt16) (body : List UInt8)
  | unreachable
  | expired

namespace Exchange

/-- The first text among the fields in which services explain themselves. -/
def explanation? (j : Json) : Option String :=
  ["detail", "message", "error"].findSome? fun k => (j.field? k).bind Json.text?

/-- What a body says about a rejection. -/
def detail (body : String) : String :=
  match Json.parse body with
  | .ok j => (explanation? j).getD j.render
  | .error _ => if Text.isBlank body then "no details" else Text.trim body

/-- Octets as text; a byte order mark at the start does not count. -/
def bodyText (octets : List UInt8) : String :=
  match (Text.Utf8.decodeLossy octets).toList with
  | '\uFEFF' :: r => String.ofList r
  | cs => String.ofList cs

/-- The result of a request. -/
def settle (r : Request) : Exchange → Except Failure Unit
  | unreachable => .error (Request.notSent r.url)
  | expired => .error (Request.late r.url)
  | answered status body =>
    if Http.isSuccess status then .ok ()
    else
      .error (.remote status ("Collection " ++ r.action.name ++ " rejected with " ++
        Http.statusText status ++ ": " ++ detail (bodyText body)))

example : detail "\x7b\x22detail\x22:\x22device not found\x22\x7d" = "device not found" := by
  decide +kernel
example : detail " plain failure\n" = "plain failure" ∧ detail "" = "no details" := by
  decide +kernel

end Exchange
end LiveTelemetry
