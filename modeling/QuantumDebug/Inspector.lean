import QuantumDebug.Visualization

namespace QuantumDebug

/-!
What a client can look into while the program stands still: local variables, the quantum state and
the circuit. A scope is known by a number that is given out once and means nothing any more as soon
as the program goes on.
-/

/-- A scope. -/
inductive ScopeKind where
  | locals
  | quantumState
  | circuit
deriving DecidableEq, Inhabited, Repr

namespace ScopeKind

def all : List ScopeKind := [.locals, .quantumState, .circuit]

def name : ScopeKind → String
  | .locals => "Locals"
  | .quantumState => "Quantum State"
  | .circuit => "Quantum Circuit"

/-- Whether it may take long to look into a scope. -/
def expensive : ScopeKind → Bool
  | .locals => false
  | _ => true

end ScopeKind

/-- The scopes that have been given out and are still good, and the next number. -/
structure Inspector where
  handles : List (Int × ScopeKind)
  next : Int
  supportsVariableType : Bool
deriving DecidableEq, Repr

/-- A local variable as the client sees it, with its type if the client can show one. -/
def EngineVariable.toVariable (typed : Bool) (v : EngineVariable) : Variable :=
  ⟨v.name, v.value, if typed then some v.typeName else none⟩

def QuantumEntry.toVariable (e : QuantumEntry) : Variable := ⟨e.name, e.value, some "Complex"⟩

/-- What the client sees in the scope of the circuit, which is shown elsewhere. -/
def circuitVariable : Variable := ⟨ScopeKind.circuit.name, "See the circuit panel", none⟩

namespace Inspector

def initial : Inspector := ⟨[], 1, false⟩

instance : Inhabited Inspector := ⟨initial⟩

/-- The inspector for a client that can show types or cannot. -/
def setSupportsVariableType (i : Inspector) (typed : Bool) : Inspector :=
  { i with supportsVariableType := typed }

/-- Scopes with numbers from a first one on. -/
def numbered (first : Int) : List ScopeKind → List (Int × ScopeKind)
  | [] => []
  | k :: ks => (first, k) :: numbered (first + 1) ks

/-- Gives out a number for every scope. -/
def scopes (i : Inspector) : List Scope × Inspector :=
  let fresh := numbered i.next ScopeKind.all
  (fresh.map fun (n, k) => ⟨k.name, n, k.expensive⟩,
    { i with handles := i.handles ++ fresh, next := i.next + fresh.length })

def scope? (i : Inspector) (reference : Int) : Option ScopeKind := i.handles.lookup reference

/-- Makes every number worthless. -/
def reset (i : Inspector) : Inspector := { i with handles := [] }

variable {S : Surroundings}

/-- The local variables; an engine that fails shows none. -/
def locals (i : Inspector) (w : World S) : List Variable × World S :=
  let (answer, w) := w.localVariables
  ((answer.toOption.getD []).map (EngineVariable.toVariable i.supportsVariableType), w)

def quantumState (w : World S) : List Variable × World S :=
  match w.quantumState with
  | (.ok entries, w) =>
    (entries.map QuantumEntry.toVariable, w.record (.quantumStateCaptured entries.length))
  | (.error _, w) => ([], w)

/-- What is in the scope with a number. Looking into the circuit asks for the panel. -/
def lookInto (i : Inspector) (reference : Int) (v : Visualization) (w : World S) :
    List Variable × Visualization × World S :=
  match i.scope? reference with
  | none => ([], v, w)
  | some .locals =>
    let (vars, w) := i.locals w
    (vars, v, w)
  | some .quantumState =>
    let (vars, w) := quantumState w
    (vars, v, w)
  | some .circuit =>
    let (v, w) := v.enable.update none w
    ([circuitVariable], v, w)

end Inspector

end QuantumDebug
