import AccessGateway.Authorization.Reload

/-
  Authorization providers. A provider answers a question with yes or no, or with an error if it
  cannot tell.
-/

namespace AccessGateway

/-- Why a provider cannot answer a question. -/
inductive ProviderError where
  | unavailable (reason : String)
  | internal (reason : String)
deriving DecidableEq, Repr

/-- The text of a provider error. -/
def ProviderError.message : ProviderError → String
  | unavailable reason => "service unavailable: " ++ reason
  | internal reason => "internal error: " ++ reason

/-- Answers whether a question is allowed. -/
abbrev AuthorizationProvider := AuthorizationContext → Except ProviderError Bool

/-- The provider that decides by the active policy. -/
def Authorizer.provider (a : Authorizer) : AuthorizationProvider := fun c => .ok (a.isAllowed c)

end AccessGateway
