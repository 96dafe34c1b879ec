import AccessGateway.Authorization.Provider

/-
  What the code that handles a request can know about it: the request, whom it comes from, and
  the provider that is to be asked.
-/

namespace AccessGateway

/-- A request as far as authorization goes. -/
structure RequestInfo where
  method : String
  path : String
  identity : Option Identity
deriving DecidableEq, Inhabited, Repr

/-- A request that is being handled, and the provider to ask about it. -/
structure Scope where
  request : RequestInfo
  provider : AuthorizationProvider

namespace RequestInfo

/-- The description of a request. -/
def describe (r : RequestInfo) : String :=
  "RequestInfo \x7b method: " ++ r.method ++ ", path: " ++ Quoted.text r.path ++ ", identity: " ++
    (match r.identity with
      | none => "None"
      | some x => "Some(" ++ x.describe ++ ")") ++ " \x7d"

end RequestInfo

/-- The description of a scope. -/
def Scope.describe (s : Scope) : String :=
  "RequestScope \x7b request: " ++ s.request.describe ++ ", .. \x7d"

end AccessGateway
