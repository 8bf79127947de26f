import QuantumDebug.Config

namespace QuantumDebug

/-!
The command line of the adapter. Arguments are read from the left, and the first that is wrong, or
that asks for the version or for help, decides. Settings from the command line go before those from
environment variables.
-/

/-- An option with a value. -/
inductive CommandOption where
  | engine
  | configurationTimeout
  | panelOutput
  | profile
  | logLevel
deriving DecidableEq, Inhabited, Repr

/-- What the command line says: options that were given, and arguments for the engine. -/
structure CommandLine where
  options : List (CommandOption × String)
  engineArguments : List String
deriving DecidableEq, Inhabited, Repr

/-- What is to be done with a command line. -/
inductive CommandLineResult where
  | run (line : CommandLine)
  | showVersion
  | showHelp
  | wrong
deriving DecidableEq, Inhabited, Repr

namespace CommandOption

def longNames : List (String × CommandOption) :=
  [("engine", .engine), ("configuration-timeout-ms", .configurationTimeout),
    ("panel-output", .panelOutput), ("profile", .profile), ("log-level", .logLevel)]

/-- Whether an option takes a value. -/
def takes (o : CommandOption) (value : String) : Bool :=
  match o with
  | .configurationTimeout => (Settings.readMillis value).isSome
  | .panelOutput => value != ""
  | _ => true

end CommandOption

namespace CommandLine

def empty : CommandLine := ⟨[], []⟩

def value? (l : CommandLine) (o : CommandOption) : Option String := l.options.lookup o

/-- Gives an option a value that it takes, once. -/
def give (l : CommandLine) (o : CommandOption) (value : String) : Option CommandLine :=
  if (l.value? o).isNone ∧ o.takes value then
    some { l with options := l.options ++ [(o, value)] }
  else none

/-- What an argument is by itself. -/
inductive Word where
  /-- An option; its value may be attached. -/
  | option (o : CommandOption) (value : Option String)
  | version
  | help
  /-- Two dashes, after which everything is for the engine. -/
  | separator
  | plain
  | unknown
deriving DecidableEq, Inhabited, Repr

/-- What an argument with two dashes is, given what follows them. -/
def longWord (s : List Char) : Word :=
  let (name, rest) := s.span (· ≠ '=')
  let value : Option String := match rest with
    | _ :: v => some (String.ofList v)
    | [] => none
  match CommandOption.longNames.lookup (String.ofList name), value with
  | some o, v => .option o v
  | none, some _ => .unknown
  | none, none =>
    if String.ofList name = "version" then .version
    else if String.ofList name = "help" then .help
    else .unknown

/-- What an argument with one dash is, given what follows it. -/
def shortWord : List Char → Word
  | [] => .plain
  | 'V' :: _ => .version
  | 'h' :: _ => .help
  | ['e'] => .option .engine none
  | 'e' :: '=' :: v => .option .engine (some (String.ofList v))
  | 'e' :: v => .option .engine (some (String.ofList v))
  | _ => .unknown

/-- What an argument is by itself. -/
def word (s : String) : Word :=
  match s.toList with
  | ['-', '-'] => .separator
  | '-' :: '-' :: r => longWord r
  | '-' :: r => shortWord r
  | _ => .plain

/-- Reads arguments after others. The value of an option is attached to it or is the next argument,
which must not look like an option then. -/
def read (l : CommandLine) : List String → CommandLineResult
  | [] => .run l
  | s :: rest =>
    match word s with
    | .separator => .run { l with engineArguments := rest }
    | .version => .showVersion
    | .help => .showHelp
    | .plain => .wrong
    | .unknown => .wrong
    | .option o (some v) =>
      match l.give o v with
      | some l => l.read rest
      | none => .wrong
    | .option o none =>
      match rest with
      | [] => .wrong
      | v :: rest =>
        if word v = .plain then
          match l.give o v with
          | some l => l.read rest
          | none => .wrong
        else .wrong

def parse (arguments : List String) : CommandLineResult := empty.read arguments

/-- The settings with those of the command line before them. -/
def settings (l : CommandLine) (s : Settings) : Settings where
  engineCommand := (l.value? .engine).or s.engineCommand
  engineArguments := if l.engineArguments = [] then s.engineArguments else l.engineArguments
  configurationTimeout :=
    ((l.value? .configurationTimeout).bind Settings.readMillis).getD s.configurationTimeout
  panelOutput := (l.value? .panelOutput).or s.panelOutput
  profile := (l.value? .profile).getD s.profile
  logLevel := (l.value? .logLevel).or s.logLevel

def versionText : String := "qs-dap 0.1.0\n"

def helpLines : List String :=
  ["Debug Adapter Protocol server for quantum program execution engines",
   "",
   "Usage: qs-dap [OPTIONS] [-- <ENGINE_ARGS>...]",
   "",
   "Arguments:",
   "  [ENGINE_ARGS]...  Arguments passed to the execution engine",
   "",
   "Options:",
   "  -e, --engine <ENGINE>",
   "          Execution engine executable (overrides QS_DAP_ENGINE)",
   "      --configuration-timeout-ms <MILLIS>",
   "          Milliseconds a launch waits for configurationDone before proceeding",
   "      --panel-output <FILE>",
   "          Append circuit panel updates to this file as JSON lines",
   "      --profile <PROFILE>",
   "          Profile id reported with every panel update",
   "      --log-level <LOG_LEVEL>",
   "          Log filter directive, e.g. `qs_dap=debug`",
   "  -h, --help",
   "          Print help",
   "  -V, --version",
   "          Print version"]

def helpText : String := "\n".intercalate helpLines ++ "\n"

end CommandLine

/-- Why a file cannot be used. -/
inductive FileError where
  | notFound
  | permissionDenied
  | notADirectory
  | isADirectory
deriving DecidableEq, Inhabited, Repr

namespace FileError

def code : FileError → Nat
  | .notFound => 2
  | .permissionDenied => 13
  | .notADirectory => 20
  | .isADirectory => 21

/-- The word for the failure. -/
def kind : FileError → String
  | .notFound => "NotFound"
  | .permissionDenied => "PermissionDenied"
  | .notADirectory => "NotADirectory"
  | .isADirectory => "IsADirectory"

def words : FileError → String
  | .notFound => "No such file or directory"
  | .permissionDenied => "Permission denied"
  | .notADirectory => "Not a directory"
  | .isADirectory => "Is a directory"

def message (e : FileError) : String := e.words ++ " (os error " ++ toString e.code ++ ")"

/-- The failure with all its parts. -/
def describe (e : FileError) : String :=
  "Os \x7b code: " ++ toString e.code ++ ", kind: " ++ e.kind ++ ", message: \"" ++ e.words
    ++ "\" \x7d"

end FileError

/-- Why the adapter does not start. -/
inductive StartupError where
  | noEngine
  /-- The engine cannot be run. -/
  | engine (e : FileError)
  /-- The file for the panel cannot be written. -/
  | panel (e : FileError)
deriving DecidableEq, Inhabited, Repr

/-- The last line on standard error. -/
def StartupError.report : StartupError → String
  | .noEngine => "Error: ProtocolError(\"No execution engine configured\")\n"
  | .engine e => "Error: Io(" ++ e.describe ++ ")\n"
  | .panel e => "Error: " ++ e.describe ++ "\n"

/-- Looks for what the adapter needs to start, an engine first and then a place for the panel, given
what stands in the way of running an engine and of writing a file. Gives the engine's command. -/
def Settings.check (s : Settings) (runFault writeFault : String → Option FileError) :
    Except StartupError String :=
  match s.engineCommand with
  | none => .error .noEngine
  | some command =>
    match runFault command, s.panelOutput.bind writeFault with
    | some e, _ => .error (.engine e)
    | none, some e => .error (.panel e)
    | none, none => .ok command

end QuantumDebug
