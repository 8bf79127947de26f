import QuantumDebug.Breakpoint.Basic
import QuantumDebug.Table

namespace QuantumDebug

/-!
The breakpoints of a session: those armed in each source, and requests that wait for a program.
-/

/-- Armed candidates by the text of their source's URL, and waiting requests by path. -/
structure BreakpointSet where
  armed : Table (List Candidate)
  deferred : Table (List RequestedBreakpoint)
deriving DecidableEq

namespace BreakpointSet

def empty : BreakpointSet := ⟨.empty, .empty⟩

instance : Inhabited BreakpointSet := ⟨empty⟩

/-- Arms candidates in a source in place of those armed there. -/
def replace (b : BreakpointSet) (source : String) (cs : List Candidate) : BreakpointSet :=
  { b with armed := b.armed.insert source cs }

/-- The ids of all armed candidates, source by source in the order of the URLs. -/
def armedIds (b : BreakpointSet) : List Int := b.armed.values.flatten.map Candidate.id

/-- Keeps requests for a path in place of those kept for it. -/
def defer (b : BreakpointSet) (path : String) (requested : List RequestedBreakpoint) :
    BreakpointSet :=
  { b with deferred := b.deferred.insert path requested }

/-- The waiting requests in the order of their paths, and the set without them. -/
def takeDeferred (b : BreakpointSet) : List (String × List RequestedBreakpoint) × BreakpointSet :=
  (b.deferred.entries, { b with deferred := .empty })

end BreakpointSet

end QuantumDebug
