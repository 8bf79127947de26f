import QuantumDebug.Text.Wrap

namespace QuantumDebug

/-!
What goes wrong in an execution engine or on the way to it, and how a person is shown it.
-/

/-- A failure of the engine or of the talk with it. -/
inductive EngineError where
  /-- The program could not be loaded. -/
  | loadFailed (message : String)
  /-- The program failed while it ran, perhaps with a stack trace. -/
  | runtime (message : String) (stackTrace : Option String)
  /-- Reading from or writing to the engine failed. -/
  | io (message : String)
  /-- The engine answered with something that makes no sense. -/
  | protocol (message : String)
  /-- The engine is gone. -/
  | exited
deriving DecidableEq, Inhabited, Repr

namespace EngineError

def message : EngineError → String
  | .loadFailed m => m
  | .runtime m _ => m
  | .io m => "Engine I/O error: " ++ m
  | .protocol m => "Malformed engine reply: " ++ m
  | .exited => "Engine process exited"

def code : EngineError → String
  | .loadFailed _ => "qs_dap::engine::load"
  | .runtime _ _ => "qs_dap::engine::runtime"
  | .io _ => "qs_dap::engine::io"
  | .protocol _ => "qs_dap::engine::protocol"
  | .exited => "qs_dap::engine::exited"

/-- The failure underneath, if there is one. -/
def cause : EngineError → Option String
  | .io m => some m
  | _ => none

/-- Advice that goes with the failure: the stack trace. -/
def help : EngineError → Option String
  | .runtime _ trace => trace
  | _ => none

/-- The columns of a report, two less than those of the page. -/
def reportColumns : Nat := 198

/-- The failure as a report: its code, its message, what caused it and what helps, each filled to
the width of a page. -/
def render (e : EngineError) : String :=
  let part (indent rest text : String) := Text.fill reportColumns indent rest text ++ "\n"
  e.code ++ "\n\n" ++ part "  × " "  │ " e.message
    ++ (e.cause.map (part "  ╰─▶ " "      ")).getD ""
    ++ (e.help.map (part "  help: " "        ")).getD ""

end EngineError

end QuantumDebug
