import LiveTelemetry.Text.Utf8
import LiveTelemetry.Url.Basic
import LiveTelemetry.Url.Encoding

/-!
Values of authorization headers, and the addresses that lose their user and password to them.
-/
namespace LiveTelemetry.Http

/-- Whether a text may be the value of a header: no control characters but tabs. -/
def isHeaderValue (s : String) : Bool :=
  s.toList.all fun c => (0x20 ≤ c.toNat && c != '\x7f') || c == '\t'

def sextetChar (n : Nat) : Char :=
  if n < 26 then Char.ofNat (0x41 + n)
  else if n < 52 then Char.ofNat (0x61 + n - 26)
  else if n < 62 then Char.ofNat (0x30 + n - 52)
  else if n = 62 then '+' else '/'

/-- Octets in the alphabet of 64 characters, filled up to a multiple of four. -/
def base64 : List UInt8 → List Char
  | [] => []
  | [a] =>
    let n := a.toNat * 16
    [sextetChar (n / 64), sextetChar (n % 64), '=', '=']
  | [a, b] =>
    let n := (a.toNat * 256 + b.toNat) * 4
    [sextetChar (n / 4096), sextetChar (n / 64 % 64), sextetChar (n % 64), '=']
  | a :: b :: c :: r =>
    let n := (a.toNat * 256 + b.toNat) * 256 + c.toNat
    sextetChar (n / 262144) :: sextetChar (n / 4096 % 64) :: sextetChar (n / 64 % 64) ::
      sextetChar (n % 64) :: base64 r

/-- The user and the password of an address, decoded. A password that is no text counts as none, and
nothing is told of an address whose user is no text. -/
def user? (u : Url) : Option (String × Option String) :=
  match Text.Utf8.decode? (Url.percentDecode u.username.toList) with
  | none => none
  | some name =>
    let password := u.password.bind fun p => Text.Utf8.decode? (Url.percentDecode p.toList)
    if name == "" && password.isNone then none else some (name, password)

/-- The header for the user and the password of an address, if it has them. -/
def basic? (u : Url) : Option String :=
  (user? u).map fun (name, password) =>
    "Basic " ++ String.ofList (base64 (Text.Utf8.encode (name ++ ":" ++ password.getD "")))

/-- The address as it is sent: user and password stay in it only if no header has them. -/
def bare (u : Url) : Url := if (user? u).isSome then u.withoutCredentials else u

@[simp] theorem scheme_bare (u : Url) : (bare u).scheme = u.scheme := by
  unfold bare
  split <;> rfl

@[simp] theorem path_bare (u : Url) : (bare u).path = u.path := by
  unfold bare
  split <;> rfl

theorem bare_setPath (u : Url) (p : Url.Path) :
    bare { u with path := p } = { bare u with path := p } := by
  have huser : user? { u with path := p } = user? u := rfl
  unfold bare
  rw [huser]
  split <;> rfl

example : base64 (Text.Utf8.encode "u:p") = "dTpw".toList := by decide +kernel
example : base64 (Text.Utf8.encode "a") = "YQ==".toList := by decide +kernel

/-- A user that is no text stays in the address. -/
example : (bare ⟨"http", "%FF", some "p", some "h", none, .segments [""], none, none⟩).render =
    "http://%FF:p@h/" := by decide +kernel

end LiveTelemetry.Http
