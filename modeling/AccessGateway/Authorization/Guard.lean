import AccessGateway.Authorization.Scope

/-
  Guards in front of operations. A guard asks the provider of the current scope about the user
  of the scope, the resource of the call and its own action, and lets the operation run if the
  answer is yes. Without a scope nobody is asked, and the guard itself says whether the operation
  runs. `GuardEvent` records whom a guard turned to, in order.
-/

namespace AccessGateway

/-- The resource of a call: always the same, or found from the operation and its arguments. -/
inductive ResourceSpec (α : Type) where
  | fixed (r : Resource)
  | dynamic (resolve : String → α → Resource)

/-- What becomes of a call without a scope. -/
inductive MissingScope where
  | allow
  | deny
deriving DecidableEq, Inhabited, Repr

/-- A guard in front of an operation with arguments of a type. -/
structure Guard (α : Type) where
  operation : String
  action : String
  resource : ResourceSpec α
  missingScope : MissingScope

/-- Why an operation does not run. -/
inductive AuthorizationError where
  | denied (user resourceType action : String)
  | evaluation (e : ProviderError)
  | missingScope (operation : String)
deriving DecidableEq, Repr

/-- The text of an authorization error. -/
def AuthorizationError.message : AuthorizationError → String
  | denied user resourceType action =>
    "Unauthorized: user '" ++ user ++ "' may not '" ++ action ++ "' on '" ++ resourceType ++ "'"
  | evaluation e => "authorization evaluation failed: " ++ e.message
  | missingScope operation => "no request scope for '" ++ operation ++ "'"

/-- An operation behind a guard. -/
structure Guarded (α β ε : Type) (m : Type → Type) where
  guard : Guard α
  operation : α → m (Except ε β)

/-- Something that a guarded call turned to. -/
inductive GuardEvent (α : Type) where
  | resolved (operation : String)
  | asked (c : AuthorizationContext)
  | ran (args : α)
deriving DecidableEq, Repr

namespace Guard

variable {α β ε : Type} {m : Type → Type}

/-- The resource of a call. -/
def resourceOf (g : Guard α) (args : α) : Resource :=
  match g.resource with
  | .fixed r => r
  | .dynamic resolve => resolve g.operation args

/-- The question about a call. -/
def question (g : Guard α) (s : Scope) (args : α) : AuthorizationContext :=
  ⟨userOf s.request.identity, g.resourceOf args, g.action⟩

/-- Whom a guard turns to in a scope. -/
def consultations (g : Guard α) (s : Scope) (args : α) : List (GuardEvent α) :=
  match g.resource with
  | .fixed _ => [.asked (g.question s args)]
  | .dynamic _ => [.resolved g.operation, .asked (g.question s args)]

/-- Whether a call may run, and whom the guard turned to. -/
def check (g : Guard α) (scope : Option Scope) (args : α) :
    Except AuthorizationError Unit × List (GuardEvent α) :=
  match scope with
  | none =>
    match g.missingScope with
    | .allow => (.ok (), [])
    | .deny => (.error (.missingScope g.operation), [])
  | some s =>
    let c := g.question s args
    let events := g.consultations s args
    match s.provider c with
    | .error e => (.error (.evaluation e), events)
    | .ok true => (.ok (), events)
    | .ok false => (.error (.denied c.user c.resource.type c.action), events)

/-- Runs an operation if the call may run. -/
def call [Monad m] (g : Guard α) (scope : Option Scope) (args : α)
    (ofError : AuthorizationError → ε) (f : α → m (Except ε β)) :
    m (Except ε β × List (GuardEvent α)) :=
  match g.check scope args with
  | (.error e, events) => pure (.error (ofError e), events)
  | (.ok (), events) => do
    let r ← f args
    pure (r, events ++ [.ran args])

/-- Puts an operation behind a guard. -/
def wrap (g : Guard α) (f : α → m (Except ε β)) : Guarded α β ε m := ⟨g, f⟩

/-- The description of a guard. -/
def describe (g : Guard α) : String :=
  "AuthzGuard \x7b operation: " ++ Quoted.text g.operation ++ ", action: AuthzAction \x7b id: " ++
    Quoted.text g.action ++ " \x7d, resource: " ++
    (match g.resource with
      | .fixed r => "Static(" ++ r.describe ++ ")"
      | .dynamic _ => "Dynamic(..)") ++
    ", missing_scope: " ++
    (match g.missingScope with
      | .allow => "Allow"
      | .deny => "Deny") ++ " \x7d"

/-- The description of an operation behind a guard. -/
def describeGuarded (g : Guard α) : String :=
  "Authorized \x7b guard: " ++ g.describe ++ ", .. \x7d"

end Guard

/-- Calls the operation behind a guard if the call may run. -/
def Guarded.call {α β ε : Type} {m : Type → Type} [Monad m] (w : Guarded α β ε m)
    (scope : Option Scope) (args : α) (ofError : AuthorizationError → ε) :
    m (Except ε β × List (GuardEvent α)) :=
  match w.guard.check scope args with
  | (.error e, events) => pure (.error (ofError e), events)
  | (.ok (), events) => do
    let r ← w.operation args
    pure (r, events ++ [.ran args])

end AccessGateway
