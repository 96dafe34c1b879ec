import AccessGateway.Table

/-
  Registries of factories by capability and name. A capability is a kind, under which names are
  unique, and the type of provider that is asked for; looking a name up under the right kind but
  for another type is an error of its own. The first registration of a name stays.
-/

namespace AccessGateway

/-- What a provider is for. -/
inductive CapabilityKind where
  | authn
  | authz
  | authzConfig
deriving DecidableEq, Inhabited, Repr

/-- The name of a kind. -/
def CapabilityKind.name : CapabilityKind → String
  | authn => "authn"
  | authz => "authz"
  | authzConfig => "authz_config"

/-- A kind and the type of provider that is asked for. -/
structure Capability (τ : Type) where
  kind : CapabilityKind
  provider : τ
deriving DecidableEq

/-- Why a registry does not register a factory or does not give a provider. -/
inductive RegistryError (ε : Type) where
  | unknownProvider (kind : CapabilityKind) (name : String)
  | duplicateProvider (kind : CapabilityKind) (name : String)
  | capabilityMismatch (kind : CapabilityKind) (name : String)
  /-- The provider asks for itself in order to be made. -/
  | circular (kind : CapabilityKind) (name : String)
  | construction (kind : CapabilityKind) (name : String) (cause : ε)
deriving DecidableEq

/-- The name that a registry error is about. -/
def RegistryError.provider {ε : Type} : RegistryError ε → String
  | unknownProvider _ name => name
  | duplicateProvider _ name => name
  | capabilityMismatch _ name => name
  | circular _ name => name
  | construction _ name _ => name

/-- A registered factory. -/
structure Registration {τ : Type} (Factory : τ → Type) where
  kind : CapabilityKind
  name : String
  provider : τ
  factory : Factory provider

/-- Factories in the order of their registration. -/
structure Registry {τ : Type} (Factory : τ → Type) where
  registrations : List (Registration Factory)

namespace Registry

variable {τ : Type} {Factory : τ → Type} {ε : Type}

/-- The registry without factories. -/
def empty : Registry Factory := ⟨[]⟩

/-- The registration of a name under a kind. -/
def find? (r : Registry Factory) (kind : CapabilityKind) (name : String) :
    Option (Registration Factory) :=
  r.registrations.find? fun e => e.kind = kind && e.name = name

/-- Whether a name is registered under a kind. -/
def contains (r : Registry Factory) (kind : CapabilityKind) (name : String) : Bool :=
  (r.find? kind name).isSome

/-- The registry with one more factory, unless the name is taken. -/
def register (r : Registry Factory) (c : Capability τ) (name : String)
    (factory : Factory c.provider) : Except (RegistryError ε) (Registry Factory) :=
  if r.contains c.kind name then .error (.duplicateProvider c.kind name)
  else .ok ⟨r.registrations ++ [⟨c.kind, name, c.provider, factory⟩]⟩

/-- The factory of a name. -/
def resolve [DecidableEq τ] (r : Registry Factory) (c : Capability τ) (name : String) :
    Except (RegistryError ε) (Factory c.provider) :=
  match r.find? c.kind name with
  | none => .error (.unknownProvider c.kind name)
  | some e =>
    if h : e.provider = c.provider then .ok (h ▸ e.factory)
    else .error (.capabilityMismatch c.kind name)

/-- The names under a kind in ascending order. -/
def names (r : Registry Factory) (kind : CapabilityKind) : List String :=
  (Table.ofList ((r.registrations.filter fun e => e.kind = kind).map
    fun e => (e.name, ()))).keys

/-- The number of factories. -/
def size (r : Registry Factory) : Nat := r.registrations.length

/-- Whether there are no factories. -/
def isEmpty (r : Registry Factory) : Bool := r.registrations.isEmpty

end Registry

end AccessGateway
