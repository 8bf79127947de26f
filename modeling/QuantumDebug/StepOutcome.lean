import QuantumDebug.Visualization

namespace QuantumDebug

/-!
One run of the engine: what the program wrote is passed on, the panel is brought up to date, and
only then is anybody told how the run ended.
-/

/-- How a run ended. -/
inductive StepOutcome where
  | breakpointHit (id : Int)
  | completed
  | progressed
  | failed (error : EngineError)
deriving DecidableEq, Inhabited, Repr

namespace StepOutcome

/-- The outcome behind the engine's answer. -/
def ofAnswer : Except EngineError StepResult → StepOutcome
  | .ok (.breakpointHit id) => .breakpointHit id
  | .ok .completed => .completed
  | .ok .progressed => .progressed
  | .error e => .failed e

def failure : StepOutcome → Option EngineError
  | .failed e => some e
  | _ => none

/-- The event for a run that leaves the program standing. -/
def stoppedEvent? : StepOutcome → Option Event
  | .breakpointHit id => some (.stopped .breakpoint (some [id]))
  | .progressed => some (.stopped .step none)
  | _ => none

end StepOutcome

variable {S : Surroundings}

/-- Passes on what the program wrote, text by text. -/
def World.forward (w : World S) (texts : List String) : World S :=
  texts.foldl (fun w t => w.output .stdout t) w

/-- Runs the program and brings the panel up to date. -/
def runStep (action : StepAction) (armed : List Int) (v : Visualization) (w : World S) :
    StepOutcome × Visualization × World S :=
  let ((texts, answer), w) := w.eval action armed
  let outcome := StepOutcome.ofAnswer answer
  let (v, w) := v.update outcome.failure (w.forward texts)
  (outcome, v, w)

end QuantumDebug
