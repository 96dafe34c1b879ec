import AccessGateway.Route.Bypass

/-
  The configuration of the gateway: for authentication and for authorization the name of a
  provider and the requests that pass without it. Unless it is configured otherwise, what is said
  of the service itself can be read by anybody.
-/

namespace AccessGateway

/-- A provider, if there is one, and the requests that pass without it. -/
structure LayerConfig where
  provider : Option String
  bypass : BypassConfig
deriving Inhabited

namespace LayerConfig

/-- The form of a written layer, given what messages call it and which requests pass unless it is
written otherwise. -/
def layout (typeName : String) (bypass : BypassConfig) : Layout LayerConfig where
  typeName := typeName
  fields := [
    .optional "provider" (Reader.nullable Reader.text) fun v x => { x with provider := v },
    .optional "bypass" BypassConfig.read fun v x => { x with bypass := v }]
  closed := true
  blank := ⟨none, bypass⟩

/-- The written layer. -/
def toJson (x : LayerConfig) : Json :=
  .object [("bypass", x.bypass.toJson), ("provider", Json.ofText? x.provider)]

end LayerConfig

/-- Who reads what the service says of itself need not be known. -/
def openRoutes : BypassConfig :=
  Table.ofList [("/api/v1", ["GET"]), ("/api/v1/heartbeat", ["GET"]), ("/api/v1/version", ["GET"])]

/-- The configuration of the gateway. -/
structure GatewayConfig where
  authn : LayerConfig
  authz : LayerConfig
deriving Inhabited

namespace GatewayConfig

/-- The form of the authentication layer. -/
def authnLayout : Layout LayerConfig := LayerConfig.layout "AuthnConfig" openRoutes

/-- The form of the authorization layer. -/
def authzLayout : Layout LayerConfig := LayerConfig.layout "AuthzConfig" Table.empty

/-- The form of a written configuration. -/
def layout (dialect : Dialect) : Layout GatewayConfig where
  typeName := "ApiGatewayConfig"
  fields := [
    .optional "authn" (authnLayout.read dialect) fun v x => { x with authn := v },
    .optional "authz" (authzLayout.read dialect) fun v x => { x with authz := v }]
  closed := true
  blank := ⟨authnLayout.blank, authzLayout.blank⟩

/-- Reads a configuration. -/
def read (dialect : Dialect) : Reader GatewayConfig := (layout dialect).read dialect

/-- The written configuration. -/
def toJson (x : GatewayConfig) : Json :=
  .object [("authn", x.authn.toJson), ("authz", x.authz.toJson)]

end GatewayConfig

end AccessGateway
