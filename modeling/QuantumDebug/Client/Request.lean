import QuantumDebug.Breakpoint.Basic
import QuantumDebug.Json.Parser

namespace QuantumDebug

/-!
Requests of the client: a number, the name of a command and its arguments. A request whose
arguments do not have the right shape is not a request, also where the adapter would refuse the
command.
-/

/-- What a request asks for. -/
inductive Command where
  | initializeSession (linesFromOne columnsFromOne supportsVariableType : Option Bool)
  | launch (noDebug : Option Bool) (data : Option Json)
  | configurationDone
  | setBreakpoints (source : Source) (breakpoints : List RequestedBreakpoint)
  | breakpointLocations (source : Source) (requested : RequestedBreakpoint)
  | setExceptionBreakpoints
  | setFunctionBreakpoints
  | threads
  | stackTrace
  | scopes
  | variables (reference : Int)
  | continue
  | next
  | stepIn
  | stepOut
  | terminate
  | disconnect
  /-- A command that the adapter knows but does not carry out. -/
  | unsupported (name : String)
deriving DecidableEq, Inhabited

/-- A request. -/
structure Request where
  seq : Int
  command : Command
deriving DecidableEq, Inhabited

namespace Request

def success (r : Request) (body : ResponseBody) : Response := ⟨r.seq, .success body⟩

def failure (r : Request) (message : String) : Response := ⟨r.seq, .failure message⟩

/-! ### Arguments -/

open Json (Decoder Record)

/-- A field that has to be there and has no further use. -/
def need {α : Type} (name : String) (d : Decoder α) : Record Unit := (fun _ => ()) <$> .field name d

/-- A field that may be missing or null and has no further use. -/
def allow {α : Type} (name : String) (d : Decoder α) : Record Unit :=
  (fun _ => ()) <$> .fieldOption name d

/-- Several fields without further use. -/
def all (rs : List (Record Unit)) : Record Unit :=
  rs.foldr (fun r s => (fun _ _ => ()) <$> r <*> s) (.done ())

/-- A value, then fields without further use. -/
def followedBy {α : Type} (r : Record α) (rs : List (Record Unit)) : Record α :=
  (fun a _ => a) <$> r <*> all rs

def granularity : Decoder Unit :=
  Json.variant [("statement", ()), ("line", ()), ("instruction", ())]

def valueFormat : Decoder Unit :=
  Record.fullDecoder "struct ValueFormat" (all [allow "hex" Json.boolean])

def frameFormat : Decoder Unit :=
  Record.fullDecoder "struct StackFrameFormat"
    (all (["parameters", "parameterTypes", "parameterNames", "parameterValues", "line", "module",
      "includeAll"].map (allow · Json.boolean)))

def runOneThread : List (Record Unit) :=
  [need "threadId" Json.i64, allow "singleThread" Json.boolean]

/-- A breakpoint on a line. -/
def sourceBreakpoint : Decoder RequestedBreakpoint :=
  Record.fullDecoder "struct SourceBreakpoint"
    (followedBy
      ((fun line column => ⟨line, column, none, none⟩) <$> .field "line" Json.i64
        <*> .fieldOption "column" Json.i64)
      [allow "condition" Json.string, allow "hit_condition" Json.string,
        allow "log_message" Json.string])

/-- A breakpoint on something else, known by one text. -/
def namedBreakpoint (name : String) (others : List (Record Unit)) : Decoder Unit :=
  Record.fullDecoder "struct Breakpoint"
    (all (need name Json.string :: others
      ++ [allow "condition" Json.string, allow "hitCondition" Json.string]))

def filterOptions : Decoder Unit :=
  Record.fullDecoder "struct ExceptionFilterOptions"
    (all [need "filterId" Json.string, allow "condition" Json.string])

def bare (c : Command) : Option Json → Option Command
  | none | some .null => some c
  | _ => none

/-- A command whose arguments are read by a record. -/
def taking (r : Record Command) : Option Json → Option Command
  | some j => (Record.fullDecoder "struct Arguments" r j).toOption
  | none => none

/-- A command whose arguments only have to fit. -/
def fitting (c : Command) (rs : List (Record Unit)) : Option Json → Option Command :=
  taking ((fun _ => c) <$> all rs)

/-- A launch: every argument but two is for the program. -/
def launching : Option Json → Option Command
  | some (.obj ms) =>
    let r : Record (Option Bool) :=
      followedBy (.fieldOption "noDebug" Json.boolean) [allow "__restart" Json.any]
    match r.ofMembers ms with
    | .error _ => none
    | .ok noDebug =>
      let rest := ms.filter fun (key, _) => key ≠ "noDebug" ∧ key ≠ "__restart"
      some (.launch noDebug (some (Json.normalize (.obj rest))))
  | _ => none

def attaching : Option Json → Option Command
  | some (.obj ms) =>
    if 1 < (ms.filter (·.1 = "__restart")).length then none else some (.unsupported "attach")
  | _ => none

/-- The switches of a client besides those that the adapter heeds. -/
def clientSwitches : List String :=
  ["supportsVariablePaging", "supportsRunInTerminalRequest", "supportsMemoryReferences",
    "supportsProgressReporting", "supportsInvalidatedEvent", "supportsMemoryEvent",
    "supportsArgsCanBeInterpretedByShell", "supportsStartDebuggingRequest"]

def initializing : Record Command :=
  followedBy
    ((fun _ _ _ _ lines columns _ types => Command.initializeSession lines columns types)
      <$> allow "clientID" Json.string <*> allow "clientName" Json.string
      <*> need "adapterID" Json.string <*> allow "locale" Json.string
      <*> .fieldOption "linesStartAt1" Json.boolean
      <*> .fieldOption "columnsStartAt1" Json.boolean
      <*> allow "pathFormat" Json.string
      <*> .fieldOption "supportsVariableType" Json.boolean)
    (clientSwitches.map (allow · Json.boolean))

def settingBreakpoints : Record Command :=
  followedBy
    ((fun source breakpoints => Command.setBreakpoints source (breakpoints.getD []))
      <$> .field "source" Source.decoder
      <*> .fieldOption "breakpoints" (Json.sequence sourceBreakpoint))
    [allow "lines" (Json.sequence Json.i64), allow "sourceModified" Json.boolean]

def locating : Record Command :=
  (fun source line column endLine endColumn =>
    Command.breakpointLocations source ⟨line, column, endLine, endColumn⟩)
    <$> .field "source" Source.decoder <*> .field "line" Json.i64
    <*> .fieldOption "column" Json.i64 <*> .fieldOption "endLine" Json.i64
    <*> .fieldOption "endColumn" Json.i64

def readingVariables : Record Command :=
  followedBy (Command.variables <$> .field "variablesReference" Json.i64)
    [allow "filter" (Json.variant [("indexed", ()), ("named", ())]), allow "start" Json.i64,
      allow "count" Json.i64, allow "format" valueFormat]

/-- A command that is not carried out, with the arguments it has. -/
def refusing (name : String) (rs : List (Record Unit)) : String × (Option Json → Option Command) :=
  (name, fitting (.unsupported name) rs)

/-- How the arguments of each command are read. -/
def commands : List (String × (Option Json → Option Command)) :=
  let grain := allow "granularity" granularity
  [("initialize", taking initializing),
    ("launch", launching),
    ("attach", attaching),
    ("configurationDone", bare .configurationDone),
    ("threads", bare .threads),
    ("loadedSources", bare (.unsupported "loadedSources")),
    ("setBreakpoints", taking settingBreakpoints),
    ("breakpointLocations", taking locating),
    ("setExceptionBreakpoints", fitting .setExceptionBreakpoints
      [need "filters" (Json.sequence Json.string),
        allow "filterOptions" (Json.sequence filterOptions),
        allow "exceptionOptions" (Json.sequence Json.any)]),
    ("setFunctionBreakpoints", fitting .setFunctionBreakpoints
      [need "breakpoints" (Json.sequence (namedBreakpoint "name" []))]),
    ("stackTrace", fitting .stackTrace
      [need "threadId" Json.i64, allow "startFrame" Json.i64, allow "levels" Json.i64,
        allow "format" frameFormat]),
    ("scopes", fitting .scopes [need "frameId" Json.i64]),
    ("variables", taking readingVariables),
    ("continue", fitting .continue runOneThread),
    ("next", fitting .next (runOneThread ++ [grain])),
    ("stepIn", fitting .stepIn (runOneThread ++ [allow "targetId" Json.i64, grain])),
    ("stepOut", fitting .stepOut (runOneThread ++ [grain])),
    ("terminate", fitting .terminate [allow "restart" Json.boolean]),
    ("disconnect", fitting .disconnect
      (["restart", "terminateDebuggee", "suspendDebuggee"].map (allow · Json.boolean))),
    refusing "pause" [need "threadId" Json.i64],
    refusing "stepBack" (runOneThread ++ [grain]),
    refusing "reverseContinue" runOneThread,
    refusing "exceptionInfo" [need "threadId" Json.i64],
    refusing "restartFrame" [need "frameId" Json.i64],
    refusing "stepInTargets" [need "frameId" Json.i64],
    refusing "modules" [allow "startModule" Json.i64, allow "moduleCount" Json.i64],
    refusing "restart" [allow "arguments" Json.any],
    refusing "terminateThreads" [allow "threadIds" (Json.sequence Json.i64)],
    refusing "cancel" [allow "requestId" Json.i64, allow "progressId" Json.string],
    refusing "completions"
      [allow "frameId" Json.i64, need "text" Json.string, need "column" Json.i64,
        allow "line" Json.i64],
    refusing "dataBreakpointInfo"
      [allow "variablesReference" Json.i64, need "name" Json.string, allow "frameId" Json.i64],
    refusing "disassemble"
      [need "memoryReference" Json.string, allow "offset" Json.i64,
        allow "instructionOffset" Json.i64, need "instructionCount" Json.i64,
        allow "resolveSymbols" Json.boolean],
    refusing "evaluate"
      [need "expression" Json.string, allow "frameId" Json.i64, allow "context" Json.string,
        allow "format" valueFormat],
    refusing "goto" [need "threadId" Json.i64, need "targetId" Json.i64],
    refusing "gotoTargets"
      [need "source" Source.decoder, need "line" Json.i64, allow "column" Json.i64],
    refusing "readMemory"
      [need "memoryReference" Json.string, allow "offset" Json.i64, need "count" Json.i64],
    refusing "writeMemory"
      [need "memoryReference" Json.string, allow "offset" Json.i64,
        allow "allowPartial" Json.boolean, need "data" Json.string],
    refusing "setDataBreakpoints"
      [need "breakpoints" (Json.sequence (namedBreakpoint "dataId"
        [allow "accessType" (Json.variant [("read", ()), ("write", ()), ("readWrite", ())])]))],
    refusing "setInstructionBreakpoints"
      [need "breakpoints" (Json.sequence (namedBreakpoint "instructionReference"
        [allow "offset" Json.i64]))],
    refusing "setExpression"
      [need "expression" Json.string, need "value" Json.string, allow "frameId" Json.i64,
        allow "format" valueFormat],
    refusing "setVariable"
      [need "variablesReference" Json.i64, need "name" Json.string, need "value" Json.string,
        allow "format" valueFormat],
    refusing "source"
      [allow "source" Source.decoder, need "sourceReference" Json.i64]]

/-! ### Whole requests -/

/-- Whether a member is written at most once. -/
def atMostOnce (key : String) (ms : List (String × Json)) : Bool :=
  (ms.filter (·.1 = key)).length ≤ 1

/-- Reads a request from an object. Its members may stand in any order; others are passed over. -/
def ofJson : Json → Option Request
  | .obj ms =>
    if atMostOnce "seq" ms && atMostOnce "command" ms && atMostOnce "arguments" ms then
      match Json.lookup "seq" ms, Json.lookup "command" ms with
      | some seq, some (.str name) =>
        match (Json.i64 seq).toOption, commands.lookup name with
        | some n, some read => (read (Json.lookup "arguments" ms)).map (⟨n, ·⟩)
        | _, _ => none
      | _, _ => none
    else none
  | _ => none

/-- Reads a request from its text. -/
def parse? (s : String) : Option Request := (Json.parse? s).bind ofJson

end Request

end QuantumDebug
