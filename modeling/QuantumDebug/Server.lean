import QuantumDebug.Client.Frame
import QuantumDebug.Session.Handle

namespace QuantumDebug

/-!
The loop that serves a session: requests, log records and the deadline of a launch come in some
order and are dealt with one at a time. Only a goodbye or the end of the requests ends it.
-/

/-- What the loop is woken by. -/
inductive Incoming where
  | request (request : Request)
  | requestsClosed
  | log (record : String)
  | logsClosed
  | launchDeadline
deriving DecidableEq, Inhabited

/-- When something is dealt with: the time at which it comes, and the time at which the launch that
it begins, if any, is looked at once more. -/
structure Moment where
  now : Nat
  later : Nat
deriving DecidableEq, Inhabited, Repr

instance : Coe Nat Moment := ⟨fun now => ⟨now, now⟩⟩

namespace Debugger

variable {S : Surroundings}

/-- Deals with one thing and says whether the loop goes on. What goes wrong with a request does not
stop it. -/
def turn (d : Debugger S) (t : Moment) : Incoming → Bool × Debugger S
  | .request r =>
    match d.handle t.now r t.later with
    | (.error .shutdown, d) => (false, d)
    | (_, d) => (true, d)
  | .requestsClosed => (false, d)
  | .log record =>
    (true, if d.traceEnabled then { d with world := d.world.output .console record } else d)
  | .logsClosed => (true, d)
  | .launchDeadline => (true, (d.resume t.now).2)

/-- Deals with one thing after another, each at its time, until the loop ends or nothing is left,
and says whether the loop goes on. -/
def serve (d : Debugger S) : List (Moment × Incoming) → Bool × Debugger S
  | [] => (true, d)
  | (t, i) :: rest =>
    match d.turn t i with
    | (true, d) => d.serve rest
    | (false, d) => (false, d)

end Debugger

end QuantumDebug
