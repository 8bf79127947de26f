import QuantumDebug.Client.Source

namespace QuantumDebug

/-!
What the adapter sends to the client: responses to its requests and events of its own, and how they
are written as JSON.
-/

/-- A breakpoint that has been placed. -/
structure Breakpoint where
  id : Option Int
  verified : Bool
  message : Option String
  source : Option Source
  line : Option Int
  column : Option Int
  endLine : Option Int
  endColumn : Option Int
  instructionReference : Option String
  offset : Option Int
deriving DecidableEq, Inhabited

/-- A place where a breakpoint can be put. -/
structure BreakpointLocation where
  line : Int
  column : Option Int
  endLine : Option Int
  endColumn : Option Int
deriving DecidableEq, Inhabited, Repr

structure StackFrame where
  id : Int
  name : String
  source : Option Source
  line : Int
  column : Int
  endLine : Option Int
  endColumn : Option Int
deriving DecidableEq, Inhabited

/-- A scope, whose variables are asked for by its reference. -/
structure Scope where
  name : String
  variablesReference : Int
  expensive : Bool
deriving DecidableEq, Inhabited, Repr

/-- A variable without parts. -/
structure Variable where
  name : String
  value : String
  typeName : Option String
deriving DecidableEq, Inhabited, Repr

structure Thread where
  id : Int
  name : String
deriving DecidableEq, Inhabited, Repr

inductive OutputCategory where
  | console
  | stdout
  | stderr
  | other (name : String)
deriving DecidableEq, Inhabited, Repr

inductive StopReason where
  | step
  | breakpoint
  | entry
  | other (name : String)
deriving DecidableEq, Inhabited, Repr

/-- What a successful response carries besides the name of its command. -/
inductive ResponseBody where
  | initializeSession
  | launch
  | configurationDone
  | setBreakpoints (breakpoints : List Breakpoint)
  | breakpointLocations (locations : List BreakpointLocation)
  | setExceptionBreakpoints
  | setFunctionBreakpoints
  | threads (threads : List Thread)
  | stackTrace (frames : List StackFrame)
  | scopes (scopes : List Scope)
  | variables (values : List Variable)
  | continue
  | next
  | stepIn
  | stepOut
  | terminate
  | disconnect
deriving DecidableEq, Inhabited

/-- The outcome of a request. -/
inductive Reply where
  | success (body : ResponseBody)
  | failure (message : String)
deriving DecidableEq, Inhabited

/-- A response to the request with the given number. -/
structure Response where
  requestSeq : Int
  reply : Reply
deriving DecidableEq, Inhabited

/-- What the adapter tells on its own. -/
inductive Event where
  | initialized
  | output (category : OutputCategory) (text : String)
  | stopped (reason : StopReason) (hitBreakpointIds : Option (List Int))
  | breakpoint (breakpoint : Breakpoint)
  | terminated
  | exited (exitCode : Int)
deriving DecidableEq, Inhabited

/-- Anything the adapter sends. -/
inductive Message where
  | response (response : Response)
  | event (event : Event)
deriving DecidableEq, Inhabited

/-- The only thread that is ever reported. -/
def threadId : Int := 1

def StopReason.description : StopReason → Option String
  | .breakpoint => some "Paused on breakpoint"
  | .entry => some "Paused on entry"
  | _ => none

/-! ### JSON -/

namespace Breakpoint

def toJson (b : Breakpoint) : Json :=
  .obj (Json.optional "id" .int b.id ++ [("verified", .bool b.verified)]
    ++ Json.optional "message" .str b.message ++ Json.optional "source" Source.toJson b.source
    ++ Json.optional "line" .int b.line ++ Json.optional "column" .int b.column
    ++ Json.optional "end_line" .int b.endLine ++ Json.optional "end_column" .int b.endColumn
    ++ Json.optional "instruction_reference" .str b.instructionReference
    ++ Json.optional "offset" .int b.offset)

def decoder : Json.Decoder Breakpoint :=
  Json.Record.fullDecoder "struct Breakpoint"
    (Breakpoint.mk <$> .fieldOption "id" Json.i64
      <*> .field "verified" Json.boolean
      <*> .fieldOption "message" Json.string
      <*> .fieldOption "source" Source.decoder
      <*> .fieldOption "line" Json.i64
      <*> .fieldOption "column" Json.i64
      <*> .fieldOption "end_line" Json.i64
      <*> .fieldOption "end_column" Json.i64
      <*> .fieldOption "instruction_reference" Json.string
      <*> .fieldOption "offset" Json.i64)

end Breakpoint

def BreakpointLocation.toJson (l : BreakpointLocation) : Json :=
  .obj ([("line", .int l.line)] ++ Json.optional "column" .int l.column
    ++ Json.optional "endLine" .int l.endLine ++ Json.optional "endColumn" .int l.endColumn)

def StackFrame.toJson (f : StackFrame) : Json :=
  .obj ([("id", .int f.id), ("name", .str f.name)] ++ Json.optional "source" Source.toJson f.source
    ++ [("line", .int f.line), ("column", .int f.column)]
    ++ Json.optional "endLine" .int f.endLine ++ Json.optional "endColumn" .int f.endColumn)

def Scope.toJson (s : Scope) : Json :=
  .obj [("name", .str s.name), ("variablesReference", .int s.variablesReference),
    ("expensive", .bool s.expensive)]

def Variable.toJson (v : Variable) : Json :=
  .obj ([("name", .str v.name), ("value", .str v.value)] ++ Json.optional "type" .str v.typeName
    ++ [("variablesReference", .int 0)])

def Thread.toJson (t : Thread) : Json := .obj [("id", .int t.id), ("name", .str t.name)]

/-- What the adapter can do and what it cannot. -/
def capabilities : List (String × Bool) :=
  [("supportsConfigurationDoneRequest", true), ("supportsFunctionBreakpoints", true),
    ("supportsConditionalBreakpoints", false), ("supportsHitConditionalBreakpoints", false),
    ("supportsEvaluateForHovers", false), ("supportsStepBack", false),
    ("supportsSetVariable", false), ("supportsExceptionOptions", false),
    ("supportTerminateDebuggee", true), ("supportsTerminateRequest", true),
    ("supportsBreakpointLocationsRequest", true), ("supportsExceptionFilterOptions", false)]

def OutputCategory.name : OutputCategory → String
  | .console => "console"
  | .stdout => "stdout"
  | .stderr => "stderr"
  | .other name => name

def StopReason.name : StopReason → String
  | .step => "step"
  | .breakpoint => "breakpoint"
  | .entry => "entry"
  | .other name => name

namespace ResponseBody

/-- The command that a body answers. -/
def command : ResponseBody → String
  | .initializeSession => "initialize"
  | .launch => "launch"
  | .configurationDone => "configurationDone"
  | .setBreakpoints _ => "setBreakpoints"
  | .breakpointLocations _ => "breakpointLocations"
  | .setExceptionBreakpoints => "setExceptionBreakpoints"
  | .setFunctionBreakpoints => "setFunctionBreakpoints"
  | .threads _ => "threads"
  | .stackTrace _ => "stackTrace"
  | .scopes _ => "scopes"
  | .variables _ => "variables"
  | .continue => "continue"
  | .next => "next"
  | .stepIn => "stepIn"
  | .stepOut => "stepOut"
  | .terminate => "terminate"
  | .disconnect => "disconnect"

def toJson : ResponseBody → Option Json
  | .initializeSession => some (.obj (capabilities.map fun (name, on) => (name, .bool on)))
  | .setBreakpoints bs => some (.obj [("breakpoints", .list Breakpoint.toJson bs)])
  | .breakpointLocations ls => some (.obj [("breakpoints", .list BreakpointLocation.toJson ls)])
  | .setExceptionBreakpoints => some (.obj [])
  | .setFunctionBreakpoints => some (.obj [("breakpoints", .arr [])])
  | .threads ts => some (.obj [("threads", .list Thread.toJson ts)])
  | .stackTrace fs =>
    some (.obj [("stackFrames", .list StackFrame.toJson fs), ("totalFrames", .nat fs.length)])
  | .scopes ss => some (.obj [("scopes", .list Scope.toJson ss)])
  | .variables vs => some (.obj [("variables", .list Variable.toJson vs)])
  | .continue => some (.obj [("all_threads_continued", .bool true)])
  | _ => none

end ResponseBody

def Response.members (r : Response) : List (String × Json) :=
  match r.reply with
  | .success body =>
    [("request_seq", .int r.requestSeq), ("success", .bool true), ("command", .str body.command)]
      ++ Json.optional "body" id body.toJson ++ [("error", .null)]
  | .failure message =>
    [("request_seq", .int r.requestSeq), ("success", .bool false), ("message", .str message),
      ("error", .null)]

namespace Event

def name : Event → String
  | .initialized => "initialized"
  | .output _ _ => "output"
  | .stopped _ _ => "stopped"
  | .breakpoint _ => "breakpoint"
  | .terminated => "terminated"
  | .exited _ => "exited"

def body : Event → Option Json
  | .initialized => none
  | .output category text =>
    some (.obj [("category", .str category.name), ("output", .str text), ("group", .null),
      ("variablesReference", .null), ("source", .null), ("line", .null), ("column", .null),
      ("data", .null)])
  | .stopped reason ids =>
    some (.obj [("reason", .str reason.name), ("description", .ofOption .str reason.description),
      ("threadId", .int threadId), ("preserveFocusHint", .null), ("text", .null),
      ("allThreadsStopped", .bool true), ("hitBreakpointIds", .ofOption (.list .int) ids)])
  | .breakpoint b => some (.obj [("reason", .str "new"), ("breakpoint", b.toJson)])
  | .terminated => some (.obj [("restart", .bool false)])
  | .exited code => some (.obj [("exitCode", .int code)])

def members (e : Event) : List (String × Json) :=
  ("event", .str e.name) :: Json.optional "body" id e.body

end Event

namespace Message

def members : Message → List (String × Json)
  | .response r => r.members
  | .event e => e.members

def toJson (m : Message) : Json := .obj m.members

/-- The message with its number in the stream of all messages. -/
def numbered (seq : Nat) (m : Message) : Json :=
  let kind := match m with
    | .response _ => "response"
    | .event _ => "event"
  .obj ([("seq", .nat seq), ("type", .str kind)] ++ m.members)

end Message

end QuantumDebug
