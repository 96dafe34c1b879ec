import AccessGateway.Server.Config
import AccessGateway.Settings.Environment
import AccessGateway.Settings.File

/-
  Loading the configuration of the server: the settings of a file, over which those of the
  environment are laid.
-/

namespace AccessGateway.AppConfig

/-- Loads the configuration from a file and the environment. -/
def load (files : Files) (env : Environment) (path : String) : Except Fault AppConfig :=
  match files.settings path with
  | .error f => .error f
  | .ok s => read .layered (s.overlay env.settings).toDocument

end AccessGateway.AppConfig
