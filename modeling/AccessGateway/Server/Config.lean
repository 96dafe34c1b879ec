import AccessGateway.Gateway.Config
import AccessGateway.Provider.Settings

/-
  The configuration of the server: its address, its log, the gateway and the providers. Every
  part may be left out.
-/

namespace AccessGateway

/-- Where the server listens. -/
structure ServerConfig where
  bindAddress : String
deriving DecidableEq, Inhabited, Repr

/-- The form of a written server section. -/
def ServerConfig.layout : Layout ServerConfig where
  typeName := "ServerConfig"
  fields := [.optional "bind_addr" Reader.text fun v x => { x with bindAddress := v }]
  closed := true
  blank := ⟨"127.0.0.1:8000"⟩

/-- The forms of the log. -/
inductive LogFormat where
  | text
  | json
deriving DecidableEq, Inhabited, Repr

namespace LogFormat

/-- The name of a form. -/
def name : LogFormat → String
  | text => "text"
  | json => "json"

/-- The forms by their names. -/
def named : List (String × LogFormat) := [("text", text), ("json", json)]

end LogFormat

/-- What is logged, and how. -/
structure LoggingConfig where
  level : String
  format : LogFormat
deriving DecidableEq, Inhabited, Repr

/-- The form of a written logging section. -/
def LoggingConfig.layout (dialect : Dialect) : Layout LoggingConfig where
  typeName := "LoggingConfig"
  fields := [
    .optional "level" Reader.text fun v x => { x with level := v },
    .optional "format" (Reader.variant dialect LogFormat.named) fun v x => { x with format := v }]
  closed := true
  blank := ⟨"info", .text⟩

/-- The configuration of the server. -/
structure AppConfig where
  server : ServerConfig
  logging : LoggingConfig
  gateway : GatewayConfig
  providers : ProviderSettings
deriving Inhabited

namespace AppConfig

/-- The form of a written configuration. -/
def layout (dialect : Dialect) : Layout AppConfig where
  typeName := "AppConfig"
  fields := [
    .optional "server" (ServerConfig.layout.read dialect) fun v x => { x with server := v },
    .optional "logging" ((LoggingConfig.layout dialect).read dialect)
      fun v x => { x with logging := v },
    .optional "gateway" (GatewayConfig.read dialect) fun v x => { x with gateway := v },
    .optional "providers" (ProviderSettings.read dialect) fun v x => { x with providers := v }]
  closed := true
  blank := ⟨ServerConfig.layout.blank, (LoggingConfig.layout dialect).blank,
    (GatewayConfig.layout dialect).blank, ProviderSettings.empty⟩

/-- Reads a configuration. -/
def read (dialect : Dialect) : Reader AppConfig := (layout dialect).read dialect

end AppConfig

end AccessGateway
