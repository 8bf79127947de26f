import QuantumDebug.Surroundings

namespace QuantumDebug

/-!
Keeping the circuit panel in step with the engine. After every run the panel is sent the circuit as
it is then, if the client wants to see it or the panel is showing anyway. The first update that the
panel takes brings it to the front.
-/

/-- What is known about the panel, and what every update of it says about the program. -/
structure Visualization where
  enabled : Bool
  revealed : Bool
  profile : String
  program : String
deriving DecidableEq, Repr

namespace Visualization

def initial (profile : String) : Visualization := ⟨false, false, profile, ""⟩

/-- Asks for the panel, for good. -/
def enable (v : Visualization) : Visualization := { v with enabled := true }

def setProgram (v : Visualization) (program : String) : Visualization :=
  { v with program := program }

/-- The update with a circuit and what went wrong, if anything did. -/
def picture (v : Visualization) (circuit : Json) (failure : Option EngineError) : PanelUpdate where
  profile := v.profile
  program := v.program
  reveal := !v.revealed
  circuit := circuit
  failure := failure.map EngineError.render

variable {S : Surroundings}

/-- Whether the panel is to be kept in step. -/
def wanted (v : Visualization) (w : World S) : Bool := v.enabled || S.panel.isOpen w.panel

/-- Sends the panel the circuit of the moment; an engine without one has none to show. -/
def update (v : Visualization) (failure : Option EngineError) (w : World S) :
    Visualization × World S :=
  if v.wanted w then
    let (circuit, w) := w.circuit
    let (accepted, w) := w.updatePanel (v.picture (circuit.toOption.getD .null) failure)
    ({ v with revealed := v.revealed || accepted }, w)
  else (v, w)

end Visualization

end QuantumDebug
