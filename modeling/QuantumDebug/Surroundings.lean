import QuantumDebug.Client.Message
import QuantumDebug.Config
import QuantumDebug.Engine.Basic
import QuantumDebug.Panel
import QuantumDebug.Url.Basic

namespace QuantumDebug

/-!
What a debugging session stands among: an engine that runs the program, a panel that shows
circuits, and the client. Each has a state of its own that changes as it is used, and everything
that is asked of them is written down in a trace.
-/

/-- An engine: what it answers to each question, and how the question changes it. A run also gives
the texts that the program wrote meanwhile. -/
structure Engine (σ : Type) where
  loadProgram : RunConfiguration → σ → Except EngineError (List Url) × σ
  breakpoints : Url → σ → Except EngineError (List EngineBreakpoint) × σ
  eval : StepAction → List Int → σ → (List String × Except EngineError StepResult) × σ
  stackFrames : σ → Except EngineError (List EngineFrame) × σ
  localVariables : σ → Except EngineError (List EngineVariable) × σ
  quantumState : σ → Except EngineError (List QuantumEntry) × σ
  circuit : σ → Except EngineError Json × σ
  terminate : σ → σ

/-- A client: whether a message reaches it. -/
structure Client (γ : Type) where
  deliver : Message → γ → Bool × γ

def Client.attentive : Client Unit := ⟨fun _ c => (true, c)⟩

/-- An engine, a panel and a client. -/
structure Surroundings where
  EngineState : Type
  PanelState : Type
  ClientState : Type
  engine : Engine EngineState
  panel : Panel PanelState
  client : Client ClientState

/-- Whether every message reaches the client. -/
def Surroundings.Attentive (S : Surroundings) : Prop := ∀ m c, (S.client.deliver m c).1 = true

/-- A question to the engine. -/
inductive EngineCall where
  | loadProgram (config : RunConfiguration)
  | breakpoints (source : Url)
  | eval (action : StepAction) (breakpoints : List Int)
  | stackFrames
  | localVariables
  | quantumState
  | circuit
  | terminate
deriving DecidableEq

/-- What is recorded about the use of the adapter, times aside. -/
inductive Telemetry where
  | sessionStart (noDebug : Bool) (shots : Nat)
  | quantumStateCaptured (entries : Nat)
  | sessionEnd (exitCode : Int)
deriving DecidableEq, Repr

/-- Something done to the surroundings. -/
inductive Effect where
  | engine (call : EngineCall)
  | telemetry (record : Telemetry)
  | panel (update : PanelUpdate) (accepted : Bool)
  | message (message : Message) (delivered : Bool)
deriving DecidableEq

/-- The states of the surroundings and what has been done to them so far. -/
structure World (S : Surroundings) where
  engine : S.EngineState
  panel : S.PanelState
  client : S.ClientState
  trace : List Effect

namespace World

variable {S : Surroundings}

/-- Writes down what is done. -/
def note (w : World S) (e : Effect) : World S := { w with trace := w.trace ++ [e] }

/-- Asks the engine. -/
def ask {α : Type} (w : World S) (call : EngineCall) (f : S.EngineState → α × S.EngineState) :
    α × World S :=
  let (a, e) := f w.engine
  (a, ({ w with engine := e } : World S).note (.engine call))

def loadProgram (w : World S) (config : RunConfiguration) :
    Except EngineError (List Url) × World S :=
  w.ask (.loadProgram config) (S.engine.loadProgram config)

def breakpoints (w : World S) (source : Url) :
    Except EngineError (List EngineBreakpoint) × World S :=
  w.ask (.breakpoints source) (S.engine.breakpoints source)

/-- Runs the program. -/
def eval (w : World S) (action : StepAction) (armed : List Int) :
    (List String × Except EngineError StepResult) × World S :=
  w.ask (.eval action armed) (S.engine.eval action armed)

def stackFrames (w : World S) : Except EngineError (List EngineFrame) × World S :=
  w.ask .stackFrames S.engine.stackFrames

def localVariables (w : World S) : Except EngineError (List EngineVariable) × World S :=
  w.ask .localVariables S.engine.localVariables

def quantumState (w : World S) : Except EngineError (List QuantumEntry) × World S :=
  w.ask .quantumState S.engine.quantumState

def circuit (w : World S) : Except EngineError Json × World S :=
  w.ask .circuit S.engine.circuit

def terminate (w : World S) : World S :=
  (w.ask .terminate fun e => ((), S.engine.terminate e)).2

/-- Records the use of the adapter. -/
def record (w : World S) (t : Telemetry) : World S := w.note (.telemetry t)

/-- Updates the panel and says whether it took the update. -/
def updatePanel (w : World S) (u : PanelUpdate) : Bool × World S :=
  let (ok, p) := S.panel.update u w.panel
  (ok, ({ w with panel := p } : World S).note (.panel u ok))

/-- Sends a message and says whether it reached the client. -/
def send (w : World S) (m : Message) : Bool × World S :=
  let (ok, c) := S.client.deliver m w.client
  (ok, ({ w with client := c } : World S).note (.message m ok))

/-- Sends output, whether it reaches the client or not. -/
def output (w : World S) (category : OutputCategory) (text : String) : World S :=
  (w.send (.event (.output category text))).2

end World

end QuantumDebug
