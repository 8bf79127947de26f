import QuantumDebug.Json.Decode
import QuantumDebug.Text.Numeral

namespace QuantumDebug

/-!
Settings: what a client says about a run when it launches it, what the engine is told about it, and
what holds for the adapter as a whole.
-/

/-- What a launch request says about the run. -/
structure LaunchArguments where
  program : String
  entry : Option String
  shots : Option Nat
  stopOnEntry : Bool
  trace : Bool
  showCircuit : Bool
deriving DecidableEq, Inhabited, Repr

namespace LaunchArguments

/-- Reads launch arguments. Only the program has to be there. -/
def decoder : Json.Decoder LaunchArguments :=
  Json.Record.decoder "struct LaunchArgs"
    (LaunchArguments.mk <$> .field "program" Json.string
      <*> .fieldOption "entry" Json.string
      <*> .fieldOption "shots" Json.u32
      <*> .fieldOr "stopOnEntry" Json.boolean false
      <*> .fieldOr "trace" Json.boolean false
      <*> .fieldOr "showCircuit" Json.boolean false)

def toJson (a : LaunchArguments) : Json :=
  .obj [("program", .str a.program), ("entry", .ofOption .str a.entry),
    ("shots", .ofOption .nat a.shots), ("stopOnEntry", .bool a.stopOnEntry),
    ("trace", .bool a.trace), ("showCircuit", .bool a.showCircuit)]

end LaunchArguments

/-- How a program is run. Once the run has begun only `visualizationEnabled` changes, from off
to on. -/
structure RunConfiguration where
  program : String
  entryPoint : Option String
  shotCount : Nat
  noDebug : Bool
  stopOnEntry : Bool
  visualizationEnabled : Bool
  traceVerbose : Bool
deriving DecidableEq, Repr

namespace RunConfiguration

/-- The configuration before a launch: one shot of no program. -/
def empty : RunConfiguration := ⟨"", none, 1, false, false, false, false⟩

instance : Inhabited RunConfiguration := ⟨empty⟩

/-- The configuration that a launch asks for; at least one shot is run. -/
def ofLaunch (a : LaunchArguments) (noDebug : Bool) : RunConfiguration where
  program := a.program
  entryPoint := a.entry
  shotCount := max (a.shots.getD 1) 1
  noDebug := noDebug
  stopOnEntry := a.stopOnEntry
  visualizationEnabled := a.showCircuit
  traceVerbose := a.trace

def toJson (c : RunConfiguration) : Json :=
  .obj [("program", .str c.program), ("entryPoint", .ofOption .str c.entryPoint),
    ("shotCount", .nat c.shotCount), ("noDebug", .bool c.noDebug),
    ("stopOnEntry", .bool c.stopOnEntry),
    ("visualizationEnabled", .bool c.visualizationEnabled),
    ("traceVerbose", .bool c.traceVerbose)]

end RunConfiguration

/-! ### The adapter -/

/-- Settings that hold as long as the adapter runs. -/
structure Settings where
  engineCommand : Option String
  engineArguments : List String
  /-- Milliseconds that a launch waits for the end of configuration. -/
  configurationTimeout : Nat
  panelOutput : Option String
  profile : String
  /-- The log filter, if one other than the built-in is asked for. -/
  logLevel : Option String
deriving DecidableEq, Repr

namespace Settings

def default : Settings := ⟨none, [], 1000, none, "unrestricted", none⟩

instance : Inhabited Settings := ⟨default⟩

def readMillis (s : String) : Option Nat := Text.readNatural64 s.toList

/-- What is said on standard error about environment variables that cannot be read. -/
def environmentWarning (get : String → Option String) : String :=
  match get "QS_DAP_CONFIGURATION_TIMEOUT_MS" with
  | none => ""
  | some s =>
    if (readMillis s).isSome then ""
    else "Warning: Invalid QS_DAP_CONFIGURATION_TIMEOUT_MS value '" ++ s ++ "', using default "
      ++ toString default.configurationTimeout ++ "ms\n"

/-- The settings that environment variables ask for. A timeout that is no number is passed over,
and the general log variable goes before the adapter's own. -/
def ofEnvironment (get : String → Option String) : Settings where
  engineCommand := get "QS_DAP_ENGINE"
  engineArguments := []
  configurationTimeout :=
    ((get "QS_DAP_CONFIGURATION_TIMEOUT_MS").bind readMillis).getD default.configurationTimeout
  panelOutput := get "QS_DAP_PANEL_OUTPUT"
  profile := (get "QS_DAP_PROFILE").getD default.profile
  logLevel := (get "RUST_LOG").or (get "QS_DAP_LOG_LEVEL")

end Settings

end QuantumDebug
