import AccessGateway.Server.Address
import AccessGateway.Server.Basic
import AccessGateway.Server.CommandLine
import AccessGateway.Server.Load
import AccessGateway.Server.LogFilter

/-
  Starting the server: the configuration, the filter of the log, the gateway and its providers,
  and at last the address. Whatever is wrong first ends the start.
-/

namespace AccessGateway

/-- Why the server does not start. -/
inductive StartupError where
  | usage (e : UsageError)
  | config (path : String) (f : Fault)
  | logFilter (filter : String)
  | gateway (e : GatewayError)
  | address (written : String)

namespace StartupError

/-- The text of a startup error. -/
def message : StartupError → String
  | usage e => e.message
  | config path _ => "failed to load config '" ++ path ++ "'"
  | logFilter filter => "invalid log filter '" ++ filter ++ "'"
  | gateway e => e.message
  | address written => SocketAddress.malformed written

/-- The line that the program leaves. -/
def line : StartupError → String
  | usage e => "error: " ++ e.message
  | e => "Error: " ++ e.message

/-- The exit code of the program. -/
def exitCode : StartupError → Nat
  | usage _ => 2
  | _ => 1

end StartupError

/-- What the program goes on with. -/
inductive Startup where
  | serve (s : Server) (address : SocketAddress)
  | help
  | version

namespace Startup

/-- The address that a text writes. -/
def address (written : String) : Except StartupError SocketAddress :=
  match SocketAddress.parse? written with
  | some a => .ok a
  | none => .error (.address written)

/-- The configuration with the values of options in place of its own. -/
def adjust (values : List (CommandOption × String)) (c : AppConfig) : AppConfig :=
  { c with
    logging := { c.logging with
      level := (CommandLine.value? values .logLevel).getD c.logging.level }
    server := ⟨(CommandLine.value? values .bind).getD c.server.bindAddress⟩ }

/-- Whether the log has a filter: the one of the environment, or else the one of the
configuration. -/
def hasFilter (env : Environment) (c : LoggingConfig) : Bool :=
  (env.get? "RUST_LOG").any LogFilter.isValid || LogFilter.isValid c.level

/-- Starts the server of a configuration. -/
def ofConfig (files : Files) (env : Environment) (c : AppConfig) : Except StartupError Startup :=
  if hasFilter env c.logging then
    match Server.ofConfig c files with
    | .error e => .error (.gateway e)
    | .ok s => (address c.server.bindAddress).map (.serve s)
  else .error (.logFilter c.logging.level)

/-- Starts the program with a command line. -/
def run (files : Files) (env : Environment) (args : List String) : Except StartupError Startup :=
  match CommandLine.read args with
  | .error e => .error (.usage e)
  | .ok .help => .ok .help
  | .ok .version => .ok .version
  | .ok (.start values) =>
    let path := (CommandLine.value? values .config).getD CommandLine.defaultConfig
    match AppConfig.load files env path with
    | .error f => .error (.config path f)
    | .ok c => ofConfig files env (adjust values c)

end Startup

end AccessGateway
