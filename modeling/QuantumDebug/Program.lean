import QuantumDebug.Breakpoint.Armed
import QuantumDebug.Breakpoint.Resolver
import QuantumDebug.SourceRegistry

namespace QuantumDebug

/-!
The program under the debugger and all that follows from loading it: which sources it has, where
they can be stopped, and which breakpoints are armed in them.
-/

/-- A program, loaded or not. -/
structure Program where
  config : RunConfiguration
  sources : SourceRegistry
  resolver : Resolver
  breakpoints : BreakpointSet
  loaded : Bool
deriving DecidableEq

namespace Program

def unloaded : Program := ⟨.empty, .empty, .fresh default, .empty, false⟩

instance : Inhabited Program := ⟨unloaded⟩

def withSources (p : Program) (urls : List Url) : Program :=
  { p with sources := urls.foldl SourceRegistry.register .empty, loaded := true }

variable {S : Surroundings}

/-- Arms in a source what the requests ask for. -/
def arm (p : Program) (source : Url) (requested : List RequestedBreakpoint) (w : World S) :
    List Candidate × Program × World S :=
  let (cs, resolver, w) := p.resolver.resolve source requested w
  (cs, { p with resolver := resolver, breakpoints := p.breakpoints.replace source.text cs }, w)

/-- Arms the requests for each path and gives the breakpoints that come of it. Paths of no known
source are passed over. -/
def armAll (p : Program) (w : World S) :
    List (String × List RequestedBreakpoint) → List Breakpoint × Program × World S
  | [] => ([], p, w)
  | (path, requested) :: rest =>
    match p.sources.resolve path with
    | none => p.armAll w rest
    | some url =>
      let (cs, q, w) := p.arm url requested w
      let (bs, q, w) := q.armAll w rest
      (cs.map (·.toBreakpoint (p.sources.clientSource url)) ++ bs, q, w)

/-- Loads the program and arms the requests that were waiting for it. A program that does not load
keeps its sources and breakpoints. -/
def load (p : Program) (w : World S) : Except EngineError (List Breakpoint) × Program × World S :=
  let p := { p with resolver := p.resolver.clear }
  match w.loadProgram p.config with
  | (.error e, w) => (.error e, { p with loaded := false }, w)
  | (.ok urls, w) =>
    let (waiting, breakpoints) := p.breakpoints.takeDeferred
    let (bs, p, w) := ({ p.withSources urls with breakpoints := breakpoints }).armAll w waiting
    (.ok bs, p, w)

end Program

end QuantumDebug
