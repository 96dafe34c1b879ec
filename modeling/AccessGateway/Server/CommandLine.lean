import AccessGateway.Entries
import AccessGateway.Text.Split

/-
  The options of the command line: `--config FILE` or `-c FILE`, `--log-level FILTER` and
  `--bind ADDRESS`. A value may also be attached to its option. Options are read from left to
  right up to the first mistake.
-/

namespace AccessGateway

/-- An option with a value. -/
inductive CommandOption where
  | config
  | logLevel
  | bind
deriving DecidableEq, Inhabited, Repr

namespace CommandOption

/-- The long name of an option. -/
def name : CommandOption → String
  | config => "config"
  | logLevel => "log-level"
  | bind => "bind"

/-- The name of the value of an option. -/
def valueName : CommandOption → String
  | config => "CONFIG"
  | logLevel => "LOG_LEVEL"
  | bind => "BIND"

/-- How a message shows an option. -/
def shown (o : CommandOption) : String := "'--" ++ o.name ++ " <" ++ o.valueName ++ ">'"

/-- The options by their long names. -/
def named : List (String × CommandOption) :=
  [("config", config), ("log-level", logLevel), ("bind", bind)]

end CommandOption

/-- Why a command line is refused. -/
inductive UsageError where
  | unexpected (argument : String)
  | missingValue (o : CommandOption)
  | repeated (o : CommandOption)
  /-- An option that takes no value has one attached. -/
  | unneeded (name value : String)
deriving DecidableEq, Repr

/-- The text of a usage error. -/
def UsageError.message : UsageError → String
  | unexpected argument => "unexpected argument '" ++ argument ++ "' found"
  | missingValue o => "a value is required for " ++ o.shown ++ " but none was supplied"
  | repeated o => "the argument " ++ o.shown ++ " cannot be used multiple times"
  | unneeded name value =>
    "unexpected value '" ++ value ++ "' for '--" ++ name ++ "' found; no more were expected"

/-- What a command line asks for. -/
inductive Command where
  | start (values : List (CommandOption × String))
  | help
  | version
deriving DecidableEq, Repr

/-- What a single argument is. -/
inductive Argument where
  /-- The mark behind which no options stand. -/
  | endOfOptions
  /-- An option, with its value if that is attached. -/
  | option (o : CommandOption) (value : Option String)
  | help
  | version
  | refused (e : UsageError)
  | plain
deriving DecidableEq, Repr

namespace CommandLine

/-- The file that is read unless another is named. -/
def defaultConfig : String := "config/gatekeeper.yaml"

/-- What the program says of its use. -/
def usage : String :=
  "Usage: gatekeeper-server [OPTIONS]\n\n" ++
  "Options:\n" ++
  "  -c, --config <CONFIG>        the configuration file [default: " ++ defaultConfig ++ "]\n" ++
  "      --log-level <LOG_LEVEL>  the filter of the log\n" ++
  "      --bind <BIND>            the address to listen on\n" ++
  "  -h, --help                   this text\n" ++
  "  -V, --version                the version"

/-- What a long option is, without its dashes. -/
def long (cs : List Char) : Argument :=
  let name := String.ofList (cs.takeWhile (· != '='))
  let value := (splitOnce '=' cs).map fun p => String.ofList p.2
  match Entries.get? name CommandOption.named with
  | some o => .option o value
  | none =>
    if name = "help" ∨ name = "version" then
      match value with
      | some v => .refused (.unneeded name v)
      | none => if name = "help" then .help else .version
    else .refused (.unexpected ("--" ++ name))

/-- What a short option is, without its dash. -/
def short (c : Char) (r : List Char) : Argument :=
  if c = 'c' then
    let value := if r.head? = some '=' then r.drop 1 else r
    .option .config (if r.isEmpty then none else some (String.ofList value))
  else if c = 'h' then .help
  else if c = 'V' then .version
  else .refused (.unexpected (String.ofList ['-', c]))

/-- What an argument is. -/
def classify (s : String) : Argument :=
  match s.toList with
  | ['-', '-'] => .endOfOptions
  | '-' :: '-' :: r => long r
  | '-' :: c :: r => short c r
  | _ => .plain

/-- The values with one more. An empty path is no value, and no option is given twice. -/
def set (o : CommandOption) (value : String) (values : List (CommandOption × String)) :
    Except UsageError (List (CommandOption × String)) :=
  if values.any fun e => e.1 = o then .error (.repeated o)
  else if o = .config ∧ value = "" then .error (.missingValue o)
  else .ok (values ++ [(o, value)])

/-- Reads arguments, given the option that waits for its value and the values so far. -/
def readFrom : Option CommandOption → List (CommandOption × String) → List String →
    Except UsageError Command
  | none, values, [] => .ok (.start values)
  | some o, _, [] => .error (.missingValue o)
  | pending, values, s :: r =>
    match classify s, pending with
    | .plain, some o =>
      match set o s values with
      | .error e => .error e
      | .ok values => readFrom none values r
    | .plain, none => .error (.unexpected s)
    | .refused e, _ => .error e
    | .endOfOptions, none =>
      match r with
      | [] => .ok (.start values)
      | t :: _ => .error (.unexpected t)
    | .endOfOptions, some o =>
      match r with
      | [] => .error (.missingValue o)
      | t :: _ => .error (.unexpected t)
    | .help, some o => .error (.missingValue o)
    | .help, none => .ok .help
    | .version, some o => .error (.missingValue o)
    | .version, none => .ok .version
    | .option _ _, some o => .error (.missingValue o)
    | .option o none, none => readFrom (some o) values r
    | .option o (some v), none =>
      match set o v values with
      | .error e => .error e
      | .ok values => readFrom none values r

/-- Reads a command line. -/
def read (args : List String) : Except UsageError Command := readFrom none [] args

end CommandLine

/-- The value of an option. -/
def CommandLine.value? (values : List (CommandOption × String)) (o : CommandOption) :
    Option String :=
  (values.find? fun e => e.1 = o).map Prod.snd

end AccessGateway
