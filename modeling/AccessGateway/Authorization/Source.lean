import AccessGateway.Authorization.Configuration
import AccessGateway.Document.JsonText
import AccessGateway.Files
import AccessGateway.Yaml.Compose
import AccessGateway.Yaml.Merge

/-
  Where the authorization configuration comes from: the configuration of the system itself, or
  a file that is read anew every time. A file is JSON if its extension says so, whatever the
  letter case, and YAML otherwise.
-/

namespace AccessGateway

/-- Why there is no authorization configuration. -/
inductive ConfigurationError where
  | unreadable (origin : String) (fault : FileFault)
  | invalid (origin detail : String)
deriving DecidableEq, Repr

namespace ConfigurationError

/-- The text of a configuration error. -/
def message : ConfigurationError → String
  | unreadable origin fault =>
    "failed to read authorization config '" ++ origin ++ "': " ++ fault.message
  | invalid origin detail => "invalid authorization config '" ++ origin ++ "': " ++ detail

/-- The text of a configuration error and of the errors behind it. -/
def chain : ConfigurationError → List String
  | unreadable origin fault => [(unreadable origin fault).message, fault.message]
  | invalid origin detail => [(invalid origin detail).message]

end ConfigurationError

/-- What a source answers when it is asked for the configuration. -/
abbrev SourceAnswer := Except ConfigurationError AuthorizationConfig

/-- A source of authorization configuration. -/
inductive ConfigurationSource where
  | file (path : String)
  | inline (config : AuthorizationConfig)

namespace ConfigurationSource

/-- Whether a path names a JSON file. -/
def isJson (path : String) : Bool :=
  match Files.extension? path with
  | some e => Ascii.lower e == "json"
  | none => false

/-- Reads a configuration from JSON text. -/
def ofJson (s : String) : Except Fault AuthorizationConfig :=
  JsonText.read (AuthorizationConfig.read .jsonText) s

/-- Reads a configuration from YAML text. -/
def ofYaml (s : String) : Except Fault AuthorizationConfig :=
  match (Yaml.parse? .late s).bind Yaml.Node.resolve? with
  | none => .error .malformed
  | some node =>
    AuthorizationConfig.read .yaml (node.toDocument fun s => (Yaml.Scalar.lenient s).toJson)

/-- Reads a configuration from the text of a file. -/
def ofText (path s : String) : Except Fault AuthorizationConfig :=
  if isJson path then ofJson s else ofYaml s

/-- The answer of a source. -/
def answer (files : Files) : ConfigurationSource → SourceAnswer
  | file path =>
    match files.readText path with
    | .error f => .error (.unreadable path f)
    | .ok s =>
      match ofText path s with
      | .error f => .error (.invalid path f.message)
      | .ok c => .ok c
  | inline config => .ok config

end ConfigurationSource

end AccessGateway
