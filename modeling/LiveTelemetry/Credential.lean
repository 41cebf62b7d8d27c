import LiveTelemetry.Text.Blank

/-!
Bearer credentials and the slot that holds the current one. A slot is read at the moment a request
is made, so a refreshed token takes effect at once. No diagnostic text shows a token.
-/
namespace LiveTelemetry

/-- A token that is not blank. -/
structure Credential where
  token : String
  notBlank : Text.isBlank token = false
  deriving DecidableEq

namespace Credential

def ofToken? (token : String) : Option Credential :=
  if h : Text.isBlank token = false then some ⟨token, h⟩ else none

/-- The value of an authorization header. -/
def bearer (c : Credential) : String := "Bearer " ++ c.token

def diagnostic (_ : Credential) : String := "Credential(***)"

end Credential

/-- Holds the current credential, if there is one. -/
structure CredentialSlot where
  held : Option Credential

namespace CredentialSlot

def empty : CredentialSlot := ⟨none⟩

def ofToken (token : Option String) : CredentialSlot := ⟨token.bind Credential.ofToken?⟩

def set (c : Credential) (_ : CredentialSlot) : CredentialSlot := ⟨some c⟩

def clear (_ : CredentialSlot) : CredentialSlot := empty

def diagnostic (s : CredentialSlot) : String :=
  let held := match s.held with
    | none => "None"
    | some c => "Some(" ++ c.diagnostic ++ ")"
  "CredentialSlot \x7b inner: RwLock \x7b data: " ++ held ++ ", poisoned: false, .. \x7d \x7d"

end CredentialSlot
end LiveTelemetry
