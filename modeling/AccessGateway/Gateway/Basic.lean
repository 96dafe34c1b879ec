import AccessGateway.Api.Problem
import AccessGateway.Authorization.Scope
import AccessGateway.Credential.Request
import AccessGateway.Gateway.Config
import AccessGateway.Provider.Factory

/-
  The gateway in front of the routes. Authentication comes first and refuses requests that it
  cannot tell the origin of; authorization refuses nothing, but publishes the scope in which the
  operations behind the routes ask for permission. Each layer is optional and has requests of its
  own that pass without it. `Gateway.screen` says what becomes of a request, and `Gateway.handle`
  turns to the routes exactly if it is let through.
-/

namespace AccessGateway

/-- Authentication in front of the routes. -/
structure AuthenticationLayer where
  authenticate : Authenticator
  bypass : BypassList

/-- Authorization in front of the routes. -/
structure AuthorizationLayer where
  provider : AuthorizationProvider
  bypass : BypassList

/-- A gateway with its two layers. -/
structure Gateway where
  authn : Option AuthenticationLayer
  authz : Option AuthorizationLayer

/-- What is known of a request when it reaches the routes. -/
structure Visit where
  request : Request
  identity : Option Identity
  scope : Option Scope

/-- What becomes of a request. -/
inductive Screening where
  | refused (p : Problem)
  | passed (v : Visit)

/-- Whether a browser asks if it may send another request. -/
def Request.isPreflight (r : Request) : Bool :=
  r.method == "OPTIONS" && r.headers.contains "origin" &&
    r.headers.contains "access-control-request-method"

/-- What a client is told of an authentication error. Only a credential that no HTTP request can
carry is the fault of the server. -/
def AuthenticationError.toProblem : AuthenticationError → Problem
  | credential (.unsupportedKind _) =>
    .internal "Authentication provider is misconfigured for this transport"
  | credential (.unreadable _ _) => .unauthorized "Unreadable credentials"
  | unavailable _ => .unauthorized "Authentication failed"
  | internal _ => .unauthorized "Authentication failed"

namespace AuthenticationLayer

/-- Whether a request passes without being looked at. -/
def skips (l : AuthenticationLayer) (r : Request) : Bool :=
  r.isPreflight || l.bypass.letsThrough r.method r.path

/-- Whom the answer of a provider names, or why the request is refused. -/
def verdict : Except AuthenticationError (Option Identity) → Except Problem (Option Identity)
  | .error e => .error e.toProblem
  | .ok none => .error (.unauthorized "Missing or invalid credentials")
  | .ok (some x) => .ok (some x)

/-- Whom a request comes from, or why it is refused. -/
def identify (l : AuthenticationLayer) (r : Request) : Except Problem (Option Identity) :=
  if l.skips r then .ok none else verdict (l.authenticate r.credentials)

end AuthenticationLayer

namespace AuthorizationLayer

/-- The scope of a request, unless it passes without one. -/
def scope? (l : AuthorizationLayer) (r : Request) (identity : Option Identity) : Option Scope :=
  if l.bypass.letsThrough r.method r.path then none
  else some ⟨⟨r.method, r.path, identity⟩, l.provider⟩

end AuthorizationLayer

namespace Gateway

variable {m : Type → Type}

/-- Whom a request comes from, or why it is refused. Without authentication nobody knows. -/
def identify (g : Gateway) (r : Request) : Except Problem (Option Identity) :=
  match g.authn with
  | none => .ok none
  | some l => l.identify r

/-- The scope of a request. -/
def scope? (g : Gateway) (r : Request) (identity : Option Identity) : Option Scope :=
  g.authz.bind fun l => l.scope? r identity

/-- What becomes of a request. -/
def screen (g : Gateway) (r : Request) : Screening :=
  match g.identify r with
  | .error p => .refused p
  | .ok identity => .passed ⟨r, identity, g.scope? r identity⟩

/-- The response to a request, given the routes behind the gateway. -/
def handle [Monad m] (g : Gateway) (routes : Visit → m Response) (r : Request) : m Response :=
  match g.screen r with
  | .refused p => pure p.response
  | .passed v => routes v

/-- The description of a gateway. -/
def describe (g : Gateway) : String :=
  let shown (b : Bool) : String := if b then "true" else "false"
  "ApiGateway \x7b authn_enabled: " ++ shown g.authn.isSome ++ ", authz_enabled: " ++
    shown g.authz.isSome ++ " \x7d"

end Gateway

/-- Why a gateway is not built. -/
inductive GatewayError where
  | registry (e : RegistryError BuildError)
  | bypass (e : BypassError)

/-- The text of a gateway error. -/
def GatewayError.message : GatewayError → String
  | registry e => e.message
  | bypass e => e.message

namespace Gateway

/-- Builds a layer, if it has a provider, from the provider and the requests that pass. -/
def layer {α β : Type} (build : α → BypassList → β) (c : LayerConfig) :
    Option α → Except BypassError (Option β)
  | none => .ok none
  | some p => (BypassList.ofConfig c.bypass).map fun b => some (build p b)

/-- The gateway of a configuration with the given providers. The routes that pass a layer are only
looked at if there is a provider for it. -/
def ofProviders (c : GatewayConfig) (authn : Option Authenticator)
    (authz : Option AuthorizationProvider) : Except BypassError Gateway :=
  match layer AuthenticationLayer.mk c.authn authn with
  | .error e => .error e
  | .ok a =>
    match layer AuthorizationLayer.mk c.authz authz with
    | .error e => .error e
    | .ok z => .ok ⟨a, z⟩

/-- The provider of a layer, if the layer names one. -/
def provider (registry : ProviderRegistry) (settings : ProviderSettings) (files : Files)
    (c : Capability ProviderType) :
    Option String → Except (RegistryError BuildError) (Option c.provider.Provider)
  | none => .ok none
  | some name => (registry.instantiate settings files c name).map some

/-- The gateway of a configuration with providers from a registry. -/
def ofRegistry (c : GatewayConfig) (registry : ProviderRegistry) (settings : ProviderSettings)
    (files : Files) : Except GatewayError Gateway :=
  match provider registry settings files .authn c.authn.provider with
  | .error e => .error (.registry e)
  | .ok authn =>
    match provider registry settings files .authz c.authz.provider with
    | .error e => .error (.registry e)
    | .ok authz => (ofProviders c authn authz).mapError .bypass

end Gateway

end AccessGateway
