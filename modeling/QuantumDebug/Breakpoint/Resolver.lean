import QuantumDebug.Breakpoint.Basic
import QuantumDebug.Surroundings
import QuantumDebug.Table

namespace QuantumDebug

/-!
Finding the places of the engine that a request asks for. The engine is asked once for every
source; its answer is kept until the program is loaded anew or the client's base changes.
-/

/-- The candidates of every source that was asked for, and the client's base. -/
structure Resolver where
  cache : Table (List Candidate)
  coords : Coordinates
deriving DecidableEq

namespace Resolver

def fresh (coords : Coordinates) : Resolver := ⟨.empty, coords⟩

instance : Inhabited Resolver := ⟨fresh default⟩

def clear (r : Resolver) : Resolver := { r with cache := .empty }

/-- The resolver with nothing kept and another base. -/
def setCoordinates (coords : Coordinates) : Resolver := fresh coords

/-- The candidates behind the engine's answer; an engine that fails has none. -/
def candidates (coords : Coordinates) : Except EngineError (List EngineBreakpoint) → List Candidate
  | .ok bs => bs.map (Candidate.ofEngine coords)
  | .error _ => []

/-- The candidates that any of the requests asks for, request by request. -/
def select (coords : Coordinates) (requested : List RequestedBreakpoint) (cs : List Candidate) :
    List Candidate :=
  requested.flatMap fun r => cs.filter (r.accepts coords)

variable {S : Surroundings}

/-- The candidates of a source, asked for only if they are not kept. -/
def load (r : Resolver) (source : Url) (w : World S) : List Candidate × Resolver × World S :=
  match r.cache.get? source.text with
  | some cs => (cs, r, w)
  | none =>
    let (answer, w) := w.breakpoints source
    let cs := candidates r.coords answer
    (cs, { r with cache := r.cache.insert source.text cs }, w)

/-- The candidates of a source that any of the requests asks for. -/
def resolve (r : Resolver) (source : Url) (requested : List RequestedBreakpoint) (w : World S) :
    List Candidate × Resolver × World S :=
  let (cs, r', w) := r.load source w
  (select r.coords requested cs, r', w)

/-- The places in a source that a request asks for. -/
def query (r : Resolver) (source : Url) (requested : RequestedBreakpoint) (w : World S) :
    List ClientRange × Resolver × World S :=
  let (cs, r', w) := r.load source w
  ((cs.filter (requested.accepts r.coords)).map Candidate.clientRange, r', w)

end Resolver

end QuantumDebug
