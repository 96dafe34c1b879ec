import AccessGateway.Authentication.Basic
import AccessGateway.Authentication.StaticToken
import AccessGateway.Authorization.Provider
import AccessGateway.Provider.Registry
import AccessGateway.Provider.Settings

/-
  How providers are made. A factory works from the settings and the files, and may ask the
  registry for other providers on the way; `builtin` is the registry of the providers that the
  gateway comes with. A factory that is asked for while it is at work would never end, so the
  number of providers that wait for each other is bounded by the number of registrations.
-/

namespace AccessGateway

/-- The types of providers. -/
inductive ProviderType where
  | authenticator
  | authorizer
  | configuration
  /-- A provider that nothing is asked of. -/
  | reservation
deriving DecidableEq, Inhabited, Repr

/-- The providers of a type. -/
def ProviderType.Provider : ProviderType → Type
  | authenticator => Authenticator
  | authorizer => AuthorizationProvider
  | configuration => ConfigurationSource
  | reservation => Unit

namespace Capability

/-- Authentication. -/
def authn : Capability ProviderType := ⟨.authn, .authenticator⟩

/-- Authorization. -/
def authz : Capability ProviderType := ⟨.authz, .authorizer⟩

/-- Configuration of the authorization. -/
def authzConfig : Capability ProviderType := ⟨.authzConfig, .configuration⟩

/-- A name for authentication that is held by a provider of no use. -/
def reservation : Capability ProviderType := ⟨.authn, .reservation⟩

end Capability

/-- Why a factory fails. -/
inductive BuildError where
  | settings (e : SettingsError)
  | staticToken (e : StaticTokenError)
  | basic (e : BasicAuthError)
  | policy (e : LoadError)
  | registry (e : RegistryError BuildError)
  /-- A failure told by its texts, the outermost first. -/
  | other (texts : List String)

/-- The text of a registry error, given the texts of its cause. -/
def RegistryError.messageWith {ε : Type} (causes : ε → List String) : RegistryError ε → String
  | unknownProvider kind name => "unknown " ++ kind.name ++ " provider '" ++ name ++ "'"
  | duplicateProvider kind name =>
    kind.name ++ " provider '" ++ name ++ "' is already registered"
  | capabilityMismatch kind name =>
    kind.name ++ " provider '" ++ name ++ "' was registered with a different provider type"
  | circular kind name => kind.name ++ " provider '" ++ name ++ "' depends on itself"
  | construction kind name cause =>
    "failed to construct " ++ kind.name ++ " provider '" ++ name ++ "': " ++
      ": ".intercalate (causes cause)

namespace BuildError

/-- The text of a failure and of the errors behind it. -/
def chain : BuildError → List String
  | settings e => e.chain
  | staticToken e => [e.message]
  | basic e => e.chain
  | policy e => e.chain
  | registry (.construction kind name cause) =>
    let texts := chain cause
    ("failed to construct " ++ kind.name ++ " provider '" ++ name ++ "': " ++
      ": ".intercalate texts) :: texts
  | registry (.unknownProvider kind name) =>
    [RegistryError.messageWith (fun _ : Unit => []) (.unknownProvider kind name)]
  | registry (.duplicateProvider kind name) =>
    [RegistryError.messageWith (fun _ : Unit => []) (.duplicateProvider kind name)]
  | registry (.capabilityMismatch kind name) =>
    [RegistryError.messageWith (fun _ : Unit => []) (.capabilityMismatch kind name)]
  | registry (.circular kind name) =>
    [RegistryError.messageWith (fun _ : Unit => []) (.circular kind name)]
  | other texts => texts

end BuildError

/-- The text of a registry error. -/
def RegistryError.message (e : RegistryError BuildError) : String :=
  RegistryError.messageWith BuildError.chain e

/-- What a factory works with. -/
structure Workshop where
  name : String
  settings : ProviderSettings
  files : Files
  /-- The number of factories in the registry. -/
  size : Nat
  instantiate : (c : Capability ProviderType) → String →
    Except (RegistryError BuildError) c.provider.Provider

/-- A factory of providers of a type. -/
abbrev Factory (t : ProviderType) := Workshop → Except BuildError t.Provider

/-- A registry of factories. -/
abbrev ProviderRegistry := Registry Factory

namespace ProviderRegistry

/-- Makes the provider of a name, if no more providers than given wait for each other. -/
def instantiateWithin (r : ProviderRegistry) (settings : ProviderSettings) (files : Files) :
    Nat → (c : Capability ProviderType) → String →
      Except (RegistryError BuildError) c.provider.Provider
  | 0, c, name => .error (.circular c.kind name)
  | n + 1, c, name =>
    match r.resolve c name with
    | .error e => .error e
    | .ok factory =>
      match factory ⟨name, settings, files, r.size, instantiateWithin r settings files n⟩ with
      | .error e => .error (.construction c.kind name e)
      | .ok p => .ok p

/-- Makes the provider of a name. -/
def instantiate (r : ProviderRegistry) (settings : ProviderSettings) (files : Files)
    (c : Capability ProviderType) (name : String) :
    Except (RegistryError BuildError) c.provider.Provider :=
  r.instantiateWithin settings files (r.size + 1) c name

end ProviderRegistry

/-- The configuration of policies compiled from roles: the name of the provider of their
configuration. -/
structure RolePolicyConfig where
  configProvider : String
deriving DecidableEq, Inhabited, Repr

/-- The form of a written configuration of policies compiled from roles. -/
def RolePolicyConfig.layout : Layout RolePolicyConfig where
  typeName := "SimpleRbacConfig"
  fields := [
    .optional "config_provider" Reader.text fun v x => { x with configProvider := v }]
  closed := true
  blank := ⟨"local_authz_config"⟩

/-- The configuration of a configuration file: its path. -/
structure ConfigurationFile where
  path : String
deriving DecidableEq, Inhabited, Repr

/-- The form of a written configuration of a configuration file. -/
def ConfigurationFile.layout : Layout ConfigurationFile where
  typeName := "LocalFileConfig"
  fields := [.needed "config_file" Reader.path fun v x => { x with path := v }]
  closed := true
  blank := ⟨""⟩

namespace Workshop

/-- Reads the section of the provider that is being made. -/
def settingsOf {α : Type} (w : Workshop) (reader : Reader α) : Except BuildError α :=
  match w.settings.typed w.name reader with
  | .ok a => .ok a
  | .error e => .error (.settings e)

end Workshop

namespace Factory

/-- Makes authentication by fixed tokens. -/
def staticToken : Factory .authenticator := fun w =>
  match w.settingsOf (StaticTokenConfig.read .value) with
  | .error e => .error e
  | .ok c =>
    match StaticTokens.ofConfig c with
    | .error e => .error (.staticToken e)
    | .ok s => .ok s.authenticator

/-- Makes authentication by user name and password. -/
def basic : Factory .authenticator := fun w =>
  match w.settingsOf (BasicAuthConfig.read .value) with
  | .error e => .error e
  | .ok c =>
    match BasicAuth.ofConfig w.files c with
    | .error e => .error (.basic e)
    | .ok s => .ok s.authenticator

/-- Makes authorization by the policy of a configuration provider. -/
def rolePolicy : Factory .authorizer := fun w =>
  match w.settingsOf (RolePolicyConfig.layout.read .value) with
  | .error e => .error e
  | .ok c =>
    match w.instantiate .authzConfig c.configProvider with
    | .error e => .error (.registry e)
    | .ok source =>
      match Authorizer.start (source.answer w.files) with
      | .error e => .error (.policy e)
      | .ok a => .ok a.provider

/-- Makes a configuration provider that reads a file. -/
def localFile : Factory .configuration := fun w =>
  match w.settingsOf (ConfigurationFile.layout.read .value) with
  | .error e => .error e
  | .ok c => .ok (.file c.path)

/-- Makes a configuration provider of what its own section holds. -/
def inline : Factory .configuration := fun w =>
  match w.settingsOf (AuthorizationConfig.read .value) with
  | .error e => .error e
  | .ok c => .ok (.inline c)

end Factory

namespace ProviderRegistry

/-- The providers that the gateway comes with. -/
def builtin : ProviderRegistry := ⟨[
  ⟨.authn, "basic", .authenticator, Factory.basic⟩,
  ⟨.authn, "static_token", .authenticator, Factory.staticToken⟩,
  ⟨.authz, "simple_rbac", .authorizer, Factory.rolePolicy⟩,
  ⟨.authzConfig, "inline_authz_config", .configuration, Factory.inline⟩,
  ⟨.authzConfig, "local_authz_config", .configuration, Factory.localFile⟩]⟩

end ProviderRegistry

end AccessGateway
