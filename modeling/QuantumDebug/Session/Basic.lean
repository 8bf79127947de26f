import QuantumDebug.Client.Request
import QuantumDebug.Inspector
import QuantumDebug.Session.Phase
import QuantumDebug.Shots

namespace QuantumDebug

/-!
A debugging session: all that is kept between two requests, and the steps that answering a request
is made of. Every step may find the client gone, and then nothing further is done for that request.
-/

/-- A launch that waits for the end of configuration, but not beyond its deadline. -/
structure PendingLaunch where
  request : Request
  deadline : Nat
deriving DecidableEq, Inhabited

/-- A session. -/
structure Debugger (S : Surroundings) where
  world : World S
  program : Program
  view : Visualization
  inspector : Inspector
  phase : Phase
  coords : Coordinates
  /-- Whether the client has said that it has configured everything. -/
  configured : Bool
  pending : Option PendingLaunch
  /-- Milliseconds that a launch waits for the end of configuration. -/
  timeout : Nat

/-- Why a request was not carried out to the end. -/
inductive SessionError where
  | unhandledCommand (name : String)
  | alreadyLaunched
  | launchArguments (fault : Json.Fault)
  | missingLaunchArguments
  /-- The client has said goodbye. -/
  | shutdown
  /-- A message did not reach the client. -/
  | unreachable
deriving DecidableEq, Inhabited, Repr

def SessionError.message : SessionError → String
  | .unhandledCommand name => "Unhandled command: " ++ name
  | .alreadyLaunched => "Protocol error: Program already launched"
  | .launchArguments fault => "Failed to deserialize launch arguments: " ++ fault.message
  | .missingLaunchArguments => "Missing launch arguments"
  | .shutdown => "Session shut down"
  | .unreachable => "client closed"

/-- A session after a request, and what stood in the way of the request. -/
abbrev Handled (S : Surroundings) := Except SessionError Unit × Debugger S

namespace Handled

variable {S : Surroundings}

/-- Goes on with the next step unless something stood in the way of the last. -/
def andThen (h : Handled S) (next : Debugger S → Handled S) : Handled S :=
  match h with
  | (.ok _, d) => next d
  | (.error e, d) => (.error e, d)

/-- Ends with an error unless another came first. -/
def failWith (h : Handled S) (e : SessionError) : Handled S := h.andThen fun d => (.error e, d)

end Handled

namespace Debugger

variable {S : Surroundings}

def start (world : World S) (profile : String) (timeout : Nat) : Debugger S where
  world := world
  program := .unloaded
  view := .initial profile
  inspector := .initial
  phase := .uninitialized
  coords := default
  configured := false
  pending := none
  timeout := timeout

def done (d : Debugger S) : Handled S := (.ok (), d)

/-- Moves on to a phase unless it is past. -/
def advance (d : Debugger S) (p : Phase) : Debugger S := { d with phase := d.phase.advance p }

/-- Whether what the adapter writes to its log is shown to the client. -/
def traceEnabled (d : Debugger S) : Bool := d.program.config.traceVerbose && d.phase != .terminated

/-- Sends a message. -/
def send (d : Debugger S) (m : Message) : Handled S :=
  match d.world.send m with
  | (true, w) => (.ok (), { d with world := w })
  | (false, w) => (.error .unreachable, { d with world := w })

def tell (d : Debugger S) (e : Event) : Handled S := d.send (.event e)

def respond (d : Debugger S) (r : Request) (body : ResponseBody) : Handled S :=
  d.send (.response (r.success body))

def refuse (d : Debugger S) (r : Request) (message : String) : Handled S :=
  d.send (.response (r.failure message))

/-- Sends events one after another. -/
def tellAll (d : Debugger S) : List Event → Handled S
  | [] => d.done
  | e :: es => (d.tell e).andThen (·.tellAll es)

/-! ### The end -/

/-- The last events of a session. -/
def closingEvents (message : String) (exitCode : Int) : List Event :=
  [.output .console (message ++ "\n"), .terminated, .exited exitCode]

/-- The session after its end, before the client has been told. -/
def closed (d : Debugger S) (exitCode : Int) : Debugger S :=
  { d with
    phase := .terminated
    pending := none
    inspector := d.inspector.reset
    world := d.world.record (.sessionEnd exitCode) }

/-- Ends the session; a session ends only once. -/
def endSession (d : Debugger S) (message : String) (exitCode : Int) : Handled S :=
  if d.phase = .terminated then d.done
  else (d.closed exitCode).tellAll (closingEvents message exitCode)

/-- Shows the client what went wrong in the engine. -/
def report (d : Debugger S) (e : EngineError) : Handled S := d.tell (.output .stderr e.render)

/-! ### Running -/

/-- Runs the program and tells how it went. The program runs only in a running session. -/
def step (d : Debugger S) (action : StepAction) : Handled S :=
  if d.phase = .running then
    let (outcome, v, w) := runStep action d.program.breakpoints.armedIds d.view d.world
    let d := { d with inspector := d.inspector.reset, view := v, world := w }
    match outcome with
    | .failed e => (d.report e).andThen (·.endSession "ending session due to error" 1)
    | .completed => d.endSession "program completed" 0
    | .breakpointHit id => d.tell (.stopped .breakpoint (some [id]))
    | .progressed => d.tell (.stopped .step none)
  else d.done

/-- Runs all shots of the program and ends the session. -/
def runAllShots (d : Debugger S) : Handled S :=
  let (outcome, p, v, w) :=
    runShots Program.reload d.program.config.shotCount d.program d.view d.world
  let d := { d with inspector := d.inspector.reset, program := p, view := v, world := w }
  (match outcome.failure with
    | some e => d.report e
    | none => d.done).andThen (·.endSession outcome.message outcome.exitCode)

/-- Sets a launched program going. -/
def run (d : Debugger S) : Handled S :=
  if d.program.config.noDebug then d.runAllShots
  else d.step (if d.program.config.stopOnEntry then .next else .continue)

/-- Goes on with a pending launch if configuration is done or the deadline has passed. -/
def resume (d : Debugger S) (now : Nat) : Handled S :=
  match d.pending with
  | none => d.done
  | some l =>
    if d.configured ∨ l.deadline ≤ now then
      (({ d with pending := none } : Debugger S).respond l.request .launch).andThen fun d =>
        (d.advance .running).run
    else d.done

end Debugger

end QuantumDebug
