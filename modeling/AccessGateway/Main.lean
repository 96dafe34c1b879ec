import AccessGateway.Json.View
import AccessGateway.Server.Startup

/-
  The program. It reads the files that its configuration names, starts the server and reports
  what keeps it from starting. Listening is the work of the host around `Server.respond`.
-/

namespace AccessGateway.Program

/-- The files with the one under a path, if it can be read. -/
def addFile (files : Files) (path : String) : IO Files := do
  try
    let octets ← IO.FS.readBinFile path
    pure (files.write path octets.toList)
  catch e =>
    match e with
    | .inappropriateType _ _ _ => pure (files.addDirectory path)
    | _ => pure files

/-- The variables of the environment of this process. -/
def environment : IO Environment := do
  try
    let octets ← IO.FS.readBinFile "/proc/self/environ"
    let entries := pieces (Char.ofNat 0) (Utf8.decodeLossy octets.toList)
    pure ((entries.filterMap (splitOnce '=')).map fun e =>
      (String.ofList e.1, String.ofList e.2))
  catch _ => pure []

/-- The files that a command line asks for: the configuration, and whatever file a provider
section names. -/
def filesFor (env : Environment) (args : List String) : IO Files := do
  match CommandLine.read args with
  | .ok (.start values) =>
    let path := (CommandLine.value? values .config).getD CommandLine.defaultConfig
    let files ← addFile Files.none path
    match AppConfig.load files env path with
    | .error _ => pure files
    | .ok c => c.providers.toJson.texts.foldlM addFile files
  | _ => pure Files.none

end AccessGateway.Program

open AccessGateway in
/-- Starts the program. -/
def main (args : List String) : IO UInt32 := do
  let env ← Program.environment
  let files ← Program.filesFor env args
  match Startup.run files env args with
  | .ok (.serve _ _) => pure 0
  | .ok .help => do
    IO.println CommandLine.usage
    pure 0
  | .ok .version => do
    IO.println ("gatekeeper-server " ++ Server.version)
    pure 0
  | .error e => do
    IO.eprintln e.line
    pure (UInt32.ofNat e.exitCode)
