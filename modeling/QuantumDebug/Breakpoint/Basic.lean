import QuantumDebug.Client.Message
import QuantumDebug.Engine.Basic

namespace QuantumDebug

/-!
Breakpoints on their way from a request to the engine. A request names a line, or a stretch that
starts at a column; it matches every place of the engine that starts on that line and, if a column
was given, inside that stretch.
-/

/-- A place where the engine can stop, as both sides count. -/
structure Candidate where
  id : Int
  range : Range
  clientRange : ClientRange
deriving DecidableEq, Inhabited, Repr

/-- A breakpoint as the client asks for it. -/
structure RequestedBreakpoint where
  line : Int
  column : Option Int
  endLine : Option Int
  endColumn : Option Int
deriving DecidableEq, Inhabited, Repr

namespace Candidate

def ofEngine (coords : Coordinates) (b : EngineBreakpoint) : Candidate :=
  ⟨b.id, b.range, coords.rangeToClient b.range⟩

/-- The breakpoint that the client is told of. -/
def toBreakpoint (c : Candidate) (source : Source) : Breakpoint where
  id := some c.id
  verified := true
  message := none
  source := some source
  line := some c.clientRange.line
  column := some c.clientRange.column
  endLine := some c.clientRange.endLine
  endColumn := some c.clientRange.endColumn
  instructionReference := none
  offset := none

end Candidate

def ClientRange.toLocation (r : ClientRange) : BreakpointLocation :=
  ⟨r.line, some r.column, some r.endLine, some r.endColumn⟩

namespace RequestedBreakpoint

def onLine (line : Int) : RequestedBreakpoint := ⟨line, none, none, none⟩

def atColumn (line column : Int) : RequestedBreakpoint := ⟨line, some column, none, none⟩

/-- The last column that a request reaches: the one it gives, the end of the line where it gives
only a line, and its first column otherwise. -/
def lastColumn (r : RequestedBreakpoint) (coords : Coordinates) (column : Int) : UInt32 :=
  match r.endColumn, r.endLine with
  | some last, _ => coords.columnToEngine last
  | none, some _ => 0xFFFFFFFF
  | none, none => coords.columnToEngine column

/-- The stretch in which a place has to start, if a column was given. -/
def target (r : RequestedBreakpoint) (coords : Coordinates) : Option Range :=
  r.column.map fun column =>
    ⟨⟨coords.lineToEngine r.line, coords.columnToEngine column⟩,
      ⟨coords.lineToEngine (r.endLine.getD r.line), r.lastColumn coords column⟩⟩

/-- Whether a request asks for a candidate. -/
def accepts (r : RequestedBreakpoint) (coords : Coordinates) (c : Candidate) : Bool :=
  c.clientRange.line == r.line
    && match r.target coords with
      | some stretch => stretch.contains c.range.first
      | none => true

end RequestedBreakpoint

end QuantumDebug
