import AccessGateway.Credential.Source
import AccessGateway.Identity

/-
  Authentication providers. A provider looks credentials of a request up and answers with an
  identity, with nothing if it rejects the request, or with an error if it cannot tell.
-/

namespace AccessGateway

/-- Why a provider cannot tell whom a request comes from. -/
inductive AuthenticationError where
  | credential (e : CredentialError)
  | unavailable (reason : String)
  | internal (reason : String)
deriving DecidableEq, Repr

/-- The text of an authentication error. -/
def AuthenticationError.message : AuthenticationError → String
  | credential e => e.message
  | unavailable reason => "authentication backend unavailable: " ++ reason
  | internal reason => "internal error: " ++ reason

/-- Answers whom a request comes from. -/
abbrev Authenticator := CredentialRequest → Except AuthenticationError (Option Identity)

/-- The authenticator that extracts a credential and looks it up; a request without one is
rejected. -/
def Authenticator.ofSource (source : CredentialSource) (find : String → Option Identity) :
    Authenticator := fun request =>
  match source.extract request with
  | .error e => .error (.credential e)
  | .ok none => .ok none
  | .ok (some value) => .ok (find value)

end AccessGateway
