import QuantumDebug.Program
import QuantumDebug.StepOutcome

namespace QuantumDebug

/-!
Running a program several times over without stopping in it. The program is loaded anew between two
shots, and the first shot that does not come to its end is the last.
-/

/-- How the shots ended. -/
inductive ShotsOutcome where
  | completed
  /-- A shot stopped before its end. -/
  | incomplete (shot : Nat)
  /-- A shot failed, or the program did not load after it. -/
  | failed (shot : Nat) (error : EngineError)
deriving DecidableEq, Inhabited, Repr

namespace ShotsOutcome

def exitCode : ShotsOutcome → Int
  | .completed => 0
  | .incomplete _ => -1
  | .failed _ _ => 1

def message : ShotsOutcome → String
  | .completed => "all shots completed"
  | .incomplete _ => "execution didn't run to completion"
  | .failed _ _ => "ending session due to error"

def failure : ShotsOutcome → Option EngineError
  | .failed _ e => some e
  | _ => none

end ShotsOutcome

/-- The report of a shot that came to its end. -/
def finishedShot (shot total : Nat) : String :=
  "Finished shot " ++ toString shot ++ " of " ++ toString total ++ "\n"

variable {S : Surroundings}

/-- What is done between two shots. -/
abbrev Reload (S : Surroundings) := Program → World S → Except EngineError Unit × Program × World S

def Program.reload : Reload S := fun p w =>
  let (answer, p, w) := p.load w
  (answer.map fun _ => (), p, w)

/-- The last shots of all, so many as are left. -/
def runShotsLeft (reload : Reload S) (total : Nat) :
    Nat → Program → Visualization → World S → ShotsOutcome × Program × Visualization × World S
  | 0, p, v, w => (.completed, p, v, w)
  | left + 1, p, v, w =>
    let shot := total - left
    match runStep .continue [] v w with
    | (.failed e, v, w) => (.failed shot e, p, v, w)
    | (.breakpointHit _, v, w) => (.incomplete shot, p, v, w)
    | (.progressed, v, w) => (.incomplete shot, p, v, w)
    | (.completed, v, w) =>
      let w := w.output .console (finishedShot shot total)
      if left = 0 then (.completed, p, v, w)
      else
        match reload p w with
        | (.error e, p, w) => (.failed shot e, p, v, w)
        | (.ok _, p, w) => runShotsLeft reload total left p v w

/-- All shots, at least one. -/
def runShots (reload : Reload S) (shots : Nat) (p : Program) (v : Visualization) (w : World S) :
    ShotsOutcome × Program × Visualization × World S :=
  runShotsLeft reload (max shots 1) (max shots 1) p v w

end QuantumDebug
