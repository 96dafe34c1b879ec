import AccessGateway.Document.Reader

/-
  The configuration of the providers, a section for each by its name. A section that is missing
  or null is read as an empty one.
-/

namespace AccessGateway

/-- The sections of the providers by name. -/
structure ProviderSettings where
  sections : Table Json
deriving Inhabited

/-- Why provider settings are refused. -/
inductive SettingsError where
  | notAMapping
  | invalidSection (name : String) (fault : Fault)
deriving DecidableEq

namespace SettingsError

/-- The text of a settings error. -/
def message : SettingsError → String
  | notAMapping => "provider configuration must be a mapping of provider name to section"
  | invalidSection name fault =>
    "invalid configuration for provider '" ++ name ++ "': " ++ fault.message

/-- The text of a settings error and of the errors behind it. -/
def chain : SettingsError → List String
  | notAMapping => [notAMapping.message]
  | invalidSection name fault => [(invalidSection name fault).message, fault.message]

end SettingsError

namespace ProviderSettings

/-- No sections. -/
def empty : ProviderSettings := ⟨Table.empty⟩

/-- The settings in a JSON value. Null stands for no sections. -/
def ofJson : Json → Except SettingsError ProviderSettings
  | .null => .ok empty
  | .object ms => .ok ⟨Table.ofList ms⟩
  | _ => .error .notAMapping

/-- Reads settings as part of another document. In layered settings null stands for no
sections. -/
def read (dialect : Dialect) : Reader ProviderSettings
  | .null =>
    if dialect = .layered then .ok empty else .error (Document.unexpected .null "a map")
  | d => (Reader.table Reader.any d).map fun t => ⟨t⟩

/-- The settings with a section in place of the one of its name. -/
def withSection (x : ProviderSettings) (name : String) (s : Json) : ProviderSettings :=
  ⟨x.sections.insert name s⟩

/-- The section of a name. -/
def section? (x : ProviderSettings) (name : String) : Option Json := x.sections.get? name

/-- The section of a name as it is read. -/
def document (x : ProviderSettings) (name : String) : Document :=
  match x.section? name with
  | none => .object [] true
  | some .null => .object [] true
  | some v => Document.ofJson v

/-- Reads the section of a name. -/
def typed {α : Type} (x : ProviderSettings) (name : String) (reader : Reader α) :
    Except SettingsError α :=
  match reader (x.document name) with
  | .ok a => .ok a
  | .error f => .error (.invalidSection name f)

/-- The written settings. -/
def toJson (x : ProviderSettings) : Json := Json.ofTable x.sections

end ProviderSettings

end AccessGateway
