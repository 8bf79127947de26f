import QuantumDebug.Session.Basic

namespace QuantumDebug

/-!
How a session answers requests. A request that sets the program going is answered first.
-/

namespace Debugger

variable {S : Surroundings}

/-- The greeting of a client: how it counts and what it can show. -/
def greet (d : Debugger S) (r : Request) (lines columns types : Option Bool) : Handled S :=
  let coords := Coordinates.ofClient lines columns
  let d := { d with
    coords := coords
    program := { d.program with resolver := .fresh coords }
    inspector := d.inspector.setSupportsVariableType (types.getD false) }
  ((d.advance .initialized).respond r .initializeSession).andThen (·.tell .initialized)

/-! ### Launch -/

def configure (d : Debugger S) (config : RunConfiguration) : Debugger S :=
  let view := if config.visualizationEnabled then d.view.enable else d.view
  { d with
    world := d.world.record (.sessionStart config.noDebug config.shotCount)
    view := view.setProgram config.program
    program := { d.program with config := config } }

/-- The session with a launch that waits. -/
def await (d : Debugger S) (now : Nat) (r : Request) : Debugger S :=
  { d.advance .awaitingConfiguration with pending := some ⟨r, now + d.timeout⟩ }

/-- Loads a program, tells which breakpoints that has armed, and waits for configuration. The clock
is read when the wait begins and once more to see whether it is over already. -/
def launchWith (d : Debugger S) (now later : Nat) (r : Request) (config : RunConfiguration) :
    Handled S :=
  let d := d.configure config
  match d.program.load d.world with
  | (.error e, p, w) =>
    (({ d with program := p, world := w } : Debugger S).refuse r e.message).andThen
      (·.endSession "ending session due to error" 1)
  | (.ok armed, p, w) =>
    (({ d with program := p, world := w } : Debugger S).tellAll (armed.map .breakpoint)).andThen
      fun d => (d.await now r).resume later

/-- What a launch asks for. -/
def launchConfiguration (noDebug : Option Bool) (data : Option Json) :
    Except SessionError RunConfiguration :=
  match data with
  | none => .error .missingLaunchArguments
  | some j =>
    match LaunchArguments.decoder j with
    | .ok a => .ok (.ofLaunch a (noDebug.getD false))
    | .error fault => .error (.launchArguments fault)

/-- A launch; there is only one in a session. -/
def launch (d : Debugger S) (now later : Nat) (r : Request) (noDebug : Option Bool)
    (data : Option Json) : Handled S :=
  if .awaitingConfiguration ≤ d.phase then
    (d.refuse r SessionError.alreadyLaunched.message).failWith .alreadyLaunched
  else
    match launchConfiguration noDebug data with
    | .error e => (d.refuse r e.message).failWith e
    | .ok config => d.launchWith now later r config

def configurationDone (d : Debugger S) (now : Nat) (r : Request) : Handled S :=
  (d.respond r .configurationDone).andThen fun d =>
    ({ d with configured := true } : Debugger S).resume now

/-! ### Breakpoints -/

/-- Sets the breakpoints of a source. Before the program is loaded they are kept by path. -/
def setBreakpoints (d : Debugger S) (r : Request) (source : Source)
    (requested : List RequestedBreakpoint) : Handled S :=
  if d.program.loaded then
    match d.program.sources.resolveSource source with
    | some url =>
      let (cs, p, w) := d.program.arm url requested d.world
      ({ d with program := p, world := w } : Debugger S).respond r
        (.setBreakpoints (cs.map (·.toBreakpoint source)))
    | none => d.respond r (.setBreakpoints [])
  else
    let breakpoints := match source.path with
      | some path => d.program.breakpoints.defer path requested
      | none => d.program.breakpoints
    ({ d with program := { d.program with breakpoints := breakpoints } } : Debugger S).respond r
      (.setBreakpoints [])

/-- The places in a source where a breakpoint can be set. -/
def breakpointLocations (d : Debugger S) (r : Request) (source : Source)
    (requested : RequestedBreakpoint) : Handled S :=
  match d.program.sources.resolveSource source with
  | some url =>
    if d.program.loaded then
      let (places, resolver, w) := d.program.resolver.query url requested d.world
      ({ d with program := { d.program with resolver := resolver }, world := w } :
          Debugger S).respond r (.breakpointLocations (places.map ClientRange.toLocation))
    else d.respond r (.breakpointLocations [])
  | none => d.respond r (.breakpointLocations [])

/-! ### Looking around -/

/-- The source that a frame names; a text that names none is passed on as it is. -/
def frameSource (d : Debugger S) (source : String) : Source :=
  match d.program.sources.resolve source with
  | some url => d.program.sources.clientSource url
  | none => { Source.unnamed with path := some source }

/-- A frame as the client sees it. -/
def clientFrame (d : Debugger S) (id : Int) (f : EngineFrame) : StackFrame :=
  let range := d.coords.rangeToClient f.range
  { id := id
    name := f.name
    source := some (d.frameSource f.source)
    line := range.line
    column := range.column
    endLine := some range.endLine
    endColumn := some range.endColumn }

/-- The frame below all others, which stands for the start of the program. -/
def entryFrame : StackFrame := ⟨0, "entry", none, 0, 0, none, none⟩

def numberFrames (d : Debugger S) (first : Int) : List EngineFrame → List StackFrame
  | [] => []
  | f :: fs => d.clientFrame first f :: d.numberFrames (first + 1) fs

/-- The stack as the client sees it, innermost frame first. -/
def clientFrames (d : Debugger S) (frames : List EngineFrame) : List StackFrame :=
  d.numberFrames 1 frames.reverse ++ [entryFrame]

/-- The stack; an engine that fails shows no frames. -/
def stackTrace (d : Debugger S) (r : Request) : Handled S :=
  let (answer, w) := d.world.stackFrames
  ({ d with world := w } : Debugger S).respond r
    (.stackTrace (d.clientFrames (answer.toOption.getD [])))

def scopes (d : Debugger S) (r : Request) : Handled S :=
  let (scopes, inspector) := d.inspector.scopes
  ({ d with inspector := inspector } : Debugger S).respond r (.scopes scopes)

/-- The session with a panel that was asked for in its configuration as well. -/
def rememberView (d : Debugger S) : Debugger S :=
  if d.view.enabled then
    { d with program :=
      { d.program with config := { d.program.config with visualizationEnabled := true } } }
  else d

/-- The variables of a scope. -/
def lookInto (d : Debugger S) (r : Request) (reference : Int) : Handled S :=
  let (vars, v, w) := d.inspector.lookInto reference d.view d.world
  ({ d with view := v, world := w } : Debugger S).rememberView.respond r (.variables vars)

/-! ### Running and ending -/

/-- Answers, then runs the program. -/
def respondAndStep (d : Debugger S) (r : Request) (body : ResponseBody) (action : StepAction) :
    Handled S :=
  (d.respond r body).andThen (·.step action)

def terminate (d : Debugger S) (r : Request) : Handled S :=
  (({ d with world := d.world.terminate } : Debugger S).respond r .terminate).andThen
    (·.endSession "debug session terminated" 0)

/-- Stops the engine without ceremony. -/
def disconnect (d : Debugger S) (r : Request) : Handled S :=
  let d := { d with world := d.world.terminate, pending := none }
  ((d.advance .terminated).respond r .disconnect).failWith .shutdown

/-- Answers a request. The second reading of the clock is used by a launch only. -/
def handle (d : Debugger S) (now : Nat) (r : Request) (later : Nat := now) : Handled S :=
  match r.command with
  | .initializeSession lines columns types => d.greet r lines columns types
  | .launch noDebug data => d.launch now later r noDebug data
  | .configurationDone => d.configurationDone now r
  | .setBreakpoints source requested => d.setBreakpoints r source requested
  | .breakpointLocations source requested => d.breakpointLocations r source requested
  | .setExceptionBreakpoints => d.respond r .setExceptionBreakpoints
  | .setFunctionBreakpoints => d.respond r .setFunctionBreakpoints
  | .threads => d.respond r (.threads [⟨threadId, "main"⟩])
  | .stackTrace => d.stackTrace r
  | .scopes => d.scopes r
  | .variables reference => d.lookInto r reference
  | .continue => d.respondAndStep r .continue .continue
  | .next => d.respondAndStep r .next .next
  | .stepIn => d.respondAndStep r .stepIn .stepIn
  | .stepOut => d.respondAndStep r .stepOut .stepOut
  | .terminate => d.terminate r
  | .disconnect => d.disconnect r
  | .unsupported name => (d.refuse r "Unsupported request").failWith (.unhandledCommand name)

end Debugger

end QuantumDebug
