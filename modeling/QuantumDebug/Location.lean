namespace QuantumDebug

/-!
Places in a source file. The engine counts lines and columns from zero, a client from zero or from
one as it says at the start. What a client sends is moved to the engine's base, cut off below at
zero, and taken modulo the range of the engine's words.
-/

/-- A place in a source file as the engine counts. -/
structure Position where
  line : UInt32
  column : UInt32
deriving DecidableEq, Inhabited, Repr

/-- Before or at, line by line and then by column. -/
def Position.le (a b : Position) : Prop := a.line < b.line ∨ (a.line = b.line ∧ a.column ≤ b.column)

instance : LE Position := ⟨Position.le⟩

instance (a b : Position) : Decidable (a ≤ b) :=
  inferInstanceAs (Decidable (a.line < b.line ∨ (a.line = b.line ∧ a.column ≤ b.column)))

structure Range where
  first : Position
  last : Position
deriving DecidableEq, Inhabited, Repr

/-- Whether a place lies in a stretch, both ends included. -/
def Range.contains (r : Range) (p : Position) : Bool := r.first ≤ p && p ≤ r.last

structure ClientRange where
  line : Int
  column : Int
  endLine : Int
  endColumn : Int
deriving DecidableEq, Inhabited, Repr

/-- Whether the client counts lines and columns from one. -/
structure Coordinates where
  linesFromOne : Bool
  columnsFromOne : Bool
deriving DecidableEq, Repr

/-- The number of the first line or column. -/
def base (fromOne : Bool) : Int := if fromOne then 1 else 0

/-- A line or column of the engine as the client counts. -/
def toClient (fromOne : Bool) (n : UInt32) : Int := n.toNat + base fromOne

/-- A line or column of the client as the engine counts. It is for numbers of which the base can be
taken without leaving the signed 64-bit words, so for all that a client sends but the least. -/
def toEngine (fromOne : Bool) (n : Int) : UInt32 := UInt32.ofNat (n - base fromOne).toNat

namespace Coordinates

/-- What a client said about its base, counting from one where it said nothing. -/
def ofClient (linesFromOne columnsFromOne : Option Bool) : Coordinates :=
  ⟨linesFromOne.getD true, columnsFromOne.getD true⟩

instance : Inhabited Coordinates := ⟨ofClient none none⟩

def lineToClient (c : Coordinates) (n : UInt32) : Int := toClient c.linesFromOne n

def columnToClient (c : Coordinates) (n : UInt32) : Int := toClient c.columnsFromOne n

def lineToEngine (c : Coordinates) (n : Int) : UInt32 := toEngine c.linesFromOne n

def columnToEngine (c : Coordinates) (n : Int) : UInt32 := toEngine c.columnsFromOne n

def rangeToClient (c : Coordinates) (r : Range) : ClientRange where
  line := c.lineToClient r.first.line
  column := c.columnToClient r.first.column
  endLine := c.lineToClient r.last.line
  endColumn := c.columnToClient r.last.column

end Coordinates

end QuantumDebug
