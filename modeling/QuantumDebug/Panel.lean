import QuantumDebug.Json.Printer

namespace QuantumDebug

/-!
The panel that shows circuits. It is sent one update after another, each a whole picture; a panel
that keeps a log writes every update as one line of JSON.
-/

/-- What the panel is to show. The failure is the report of what went wrong, if anything did. -/
structure PanelUpdate where
  profile : String
  program : String
  reveal : Bool
  circuit : Json
  failure : Option String
deriving DecidableEq

namespace PanelUpdate

def stateJson (u : PanelUpdate) : Json :=
  .obj ([("circuit", u.circuit)] ++ Json.optional "errorAnnotation" .str u.failure
    ++ [("simulated", .bool true)])

def toJson (u : PanelUpdate) : Json :=
  .obj [("profileId", .str u.profile), ("programId", .str u.program), ("reveal", .bool u.reveal),
    ("state", u.stateJson)]

def line (u : PanelUpdate) : String := u.toJson.text ++ "\n"

end PanelUpdate

/-- A panel: whether it is showing, and how it takes an update, which it may fail to do. Nothing but
an update changes it, so it is none that its user opens or closes meanwhile. -/
structure Panel (π : Type) where
  isOpen : π → Bool
  update : PanelUpdate → π → Bool × π

/-- A panel that is never there. -/
def Panel.absent : Panel Unit := ⟨fun _ => false, fun _ p => (true, p)⟩

/-! ### A log of updates -/

/-- Where a log is written: what it holds so far, and how many writes are still going to fail. -/
structure LogFile where
  text : String
  failures : Nat
deriving DecidableEq, Inhabited, Repr

/-- Writes a text, or fails and writes nothing. -/
def LogFile.write (f : LogFile) (s : String) : Bool × LogFile :=
  match f.failures with
  | 0 => (true, { f with text := f.text ++ s })
  | n + 1 => (false, { f with failures := n })

/-- Writes texts one after another, up to the first that fails. -/
def LogFile.writeAll (f : LogFile) : List String → Bool × LogFile
  | [] => (true, f)
  | s :: ss =>
    match f.write s with
    | (true, f) => f.writeAll ss
    | (false, f) => (false, f)

/-- A panel that keeps a log. It counts as showing once a line has been written. -/
structure LogPanel where
  file : LogFile
  written : Bool
deriving DecidableEq, Inhabited, Repr

namespace LogPanel

/-- A log without lines on a file. -/
def onFile (f : LogFile) : LogPanel := ⟨f, false⟩

/-- Writes an update as a line: its JSON, then the end of the line. -/
def update (u : PanelUpdate) (p : LogPanel) : Bool × LogPanel :=
  match p.file.writeAll [u.toJson.text, "\n"] with
  | (true, f) => (true, ⟨f, true⟩)
  | (false, f) => (false, { p with file := f })

/-- The log as a panel. -/
def panel : Panel LogPanel := ⟨LogPanel.written, update⟩

end LogPanel

end QuantumDebug
