import QuantumDebug.Client.Request
import QuantumDebug.Program
import QuantumDebug.Proofs.Table

/-!
Clients that begin to count at different places. What the one writes differs from what the other
writes by an offset, and so does what they are told. The engine counts for itself: a place that both
clients ask for is the same place to it.
-/

namespace QuantumDebug

/-- How much further on one client counts than another. -/
structure Offset where
  lines : Int
  columns : Int
deriving DecidableEq, Inhabited, Repr

namespace Offset

instance : Zero Offset := ⟨⟨0, 0⟩⟩

instance : Add Offset := ⟨fun o p => ⟨o.lines + p.lines, o.columns + p.columns⟩⟩

def line (o : Offset) (n : Int) : Int := n + o.lines

def column (o : Offset) (n : Int) : Int := n + o.columns

@[simp] lemma line_zero : line 0 = id := by
  funext n
  exact Int.add_zero n

@[simp] lemma column_zero : column 0 = id := by
  funext n
  exact Int.add_zero n

end Offset

variable {o : Offset} {c c' : Coordinates}

/-! ### Lines and columns -/

/-- The first line and the first column of a client. -/
def Coordinates.origin (c : Coordinates) : Offset := ⟨base c.linesFromOne, base c.columnsFromOne⟩

lemma base_injective {b b' : Bool} (h : base b' = base b) : b' = b := by
  revert h
  cases b <;> cases b' <;> decide

lemma Coordinates.origin_injective (h : c'.origin = c.origin) : c' = c := by
  obtain ⟨hlines, hcolumns⟩ := Offset.mk.inj h
  cases c
  cases c'
  exact congrArg₂ mk (base_injective hlines) (base_injective hcolumns)

namespace Offset

/-- An offset lies between two clients if the second counts that much further on than the first. -/
def Between (o : Offset) (c c' : Coordinates) : Prop := c'.origin = c.origin + o

lemma between_zero : (0 : Offset).Between c c' ↔ c' = c := by
  have hzero (p : Offset) : p + 0 = p := congrArg₂ mk (Int.add_zero _) (Int.add_zero _)
  rw [Between, hzero]
  exact ⟨Coordinates.origin_injective, congrArg Coordinates.origin⟩

namespace Between

lemma lineToClient (h : o.Between c c') (n : UInt32) :
    c'.lineToClient n = o.line (c.lineToClient n) := by
  have hbase : base c'.linesFromOne = base c.linesFromOne + o.lines := congrArg Offset.lines h
  simp only [Coordinates.lineToClient, toClient, line, hbase]
  omega

lemma columnToClient (h : o.Between c c') (n : UInt32) :
    c'.columnToClient n = o.column (c.columnToClient n) := by
  have hbase : base c'.columnsFromOne = base c.columnsFromOne + o.columns :=
    congrArg Offset.columns h
  simp only [Coordinates.columnToClient, toClient, column, hbase]
  omega

lemma lineToEngine (h : o.Between c c') (n : Int) :
    c'.lineToEngine (o.line n) = c.lineToEngine n := by
  have hbase : base c'.linesFromOne = base c.linesFromOne + o.lines := congrArg Offset.lines h
  have hplace : n + o.lines - (base c.linesFromOne + o.lines) = n - base c.linesFromOne := by omega
  rw [Coordinates.lineToEngine, Coordinates.lineToEngine, toEngine, toEngine, line, hbase, hplace]

lemma columnToEngine (h : o.Between c c') (n : Int) :
    c'.columnToEngine (o.column n) = c.columnToEngine n := by
  have hbase : base c'.columnsFromOne = base c.columnsFromOne + o.columns :=
    congrArg Offset.columns h
  have hplace :
      n + o.columns - (base c.columnsFromOne + o.columns) = n - base c.columnsFromOne := by
    omega
  rw [Coordinates.columnToEngine, Coordinates.columnToEngine, toEngine, toEngine, column, hbase,
    hplace]

end Between

end Offset

/-! ### Places -/

def ClientRange.shift (o : Offset) (r : ClientRange) : ClientRange :=
  ⟨o.line r.line, o.column r.column, o.line r.endLine, o.column r.endColumn⟩

def Candidate.shift (o : Offset) (k : Candidate) : Candidate :=
  { k with clientRange := k.clientRange.shift o }

/-- A request as the client writes it that counts further on. -/
def RequestedBreakpoint.shift (o : Offset) (r : RequestedBreakpoint) : RequestedBreakpoint :=
  ⟨o.line r.line, r.column.map o.column, r.endLine.map o.line, r.endColumn.map o.column⟩

def Breakpoint.shift (o : Offset) (b : Breakpoint) : Breakpoint :=
  { b with
    line := b.line.map o.line
    column := b.column.map o.column
    endLine := b.endLine.map o.line
    endColumn := b.endColumn.map o.column }

def BreakpointLocation.shift (o : Offset) (l : BreakpointLocation) : BreakpointLocation :=
  ⟨o.line l.line, l.column.map o.column, l.endLine.map o.line, l.endColumn.map o.column⟩

/-- A frame as the client sees it that counts further on. A frame without a source is in no line. -/
def StackFrame.shift (o : Offset) (f : StackFrame) : StackFrame :=
  match f.source with
  | some _ =>
    { f with
      line := o.line f.line
      column := o.column f.column
      endLine := f.endLine.map o.line
      endColumn := f.endColumn.map o.column }
  | none => f

@[simp] lemma ClientRange.shift_zero : shift 0 = id := by
  funext r
  simp [shift]

@[simp] lemma Candidate.shift_zero : shift 0 = fun k => k := by
  funext k
  simp [shift]

@[simp] lemma RequestedBreakpoint.shift_zero : shift 0 = id := by
  funext r
  simp [shift]

@[simp] lemma Breakpoint.shift_zero : shift 0 = fun b => b := by
  funext b
  simp [shift]

@[simp] lemma BreakpointLocation.shift_zero : shift 0 = id := by
  funext l
  simp [shift]

@[simp] lemma StackFrame.shift_zero : shift 0 = fun f => f := by
  funext f
  unfold shift
  split <;> simp

namespace Offset.Between

lemma rangeToClient (h : o.Between c c') (r : Range) :
    c'.rangeToClient r = (c.rangeToClient r).shift o := by
  simp only [Coordinates.rangeToClient, ClientRange.shift, h.lineToClient, h.columnToClient]

lemma ofEngine (h : o.Between c c') (b : EngineBreakpoint) :
    Candidate.ofEngine c' b = (Candidate.ofEngine c b).shift o := by
  simp only [Candidate.ofEngine, Candidate.shift, h.rangeToClient]

lemma target (h : o.Between c c') (r : RequestedBreakpoint) :
    (r.shift o).target c' = r.target c := by
  obtain ⟨line, column, endLine, endColumn⟩ := r
  cases column <;> cases endLine <;> cases endColumn <;>
    simp [RequestedBreakpoint.target, RequestedBreakpoint.shift, RequestedBreakpoint.lastColumn,
      h.lineToEngine, h.columnToEngine]

/-- A candidate is what the one client asks for just if it is what the other asks for. -/
lemma accepts (h : o.Between c c') (r : RequestedBreakpoint) (k : Candidate) :
    (r.shift o).accepts c' (k.shift o) = r.accepts c k := by
  have hline : ((k.shift o).clientRange.line == (r.shift o).line) =
      (k.clientRange.line == r.line) := by
    simp [Candidate.shift, ClientRange.shift, RequestedBreakpoint.shift, Offset.line]
  rw [RequestedBreakpoint.accepts, RequestedBreakpoint.accepts, h.target, hline]
  rfl

lemma filter_accepts (h : o.Between c c') (r : RequestedBreakpoint) (ks : List Candidate) :
    (ks.map (Candidate.shift o)).filter ((r.shift o).accepts c') =
      (ks.filter (r.accepts c)).map (Candidate.shift o) := by
  rw [List.filter_map]
  exact congrArg _ (List.filter_congr fun k _ => h.accepts r k)

lemma select (h : o.Between c c') (requested : List RequestedBreakpoint) (ks : List Candidate) :
    Resolver.select c' (requested.map (RequestedBreakpoint.shift o))
        (ks.map (Candidate.shift o)) =
      (Resolver.select c requested ks).map (Candidate.shift o) := by
  simp only [Resolver.select, List.flatMap_map, List.map_flatMap, h.filter_accepts]

lemma candidates (h : o.Between c c') (answer : Except EngineError (List EngineBreakpoint)) :
    Resolver.candidates c' answer = (Resolver.candidates c answer).map (Candidate.shift o) := by
  cases answer with
  | error e => rfl
  | ok bs =>
    rw [Resolver.candidates, Resolver.candidates, List.map_map]
    exact List.map_congr_left fun b _ => h.ofEngine b

end Offset.Between

/-! ### What is kept -/

def Offset.candidates (o : Offset) : Table (List Candidate) → Table (List Candidate) :=
  Table.map (List.map (Candidate.shift o))

def Offset.requests (o : Offset) :
    Table (List RequestedBreakpoint) → Table (List RequestedBreakpoint) :=
  Table.map (List.map (RequestedBreakpoint.shift o))

def BreakpointSet.shift (o : Offset) (b : BreakpointSet) : BreakpointSet :=
  ⟨o.candidates b.armed, o.requests b.deferred⟩

/-- The second resolver keeps for its client what the first keeps for a client behind it. -/
def Resolver.Shifts (o : Offset) (r r' : Resolver) : Prop :=
  (r'.cache, r'.coords.origin) = (o.candidates r.cache, r.coords.origin + o)

namespace BreakpointSet

@[simp] lemma shift_zero : shift 0 = id := by
  funext b
  simp [shift, Offset.candidates, Offset.requests]

lemma shift_replace (o : Offset) (b : BreakpointSet) (source : String) (ks : List Candidate) :
    (b.shift o).replace source (ks.map (Candidate.shift o)) = (b.replace source ks).shift o :=
  congrArg (mk · _) (Table.insert_map _ _ _ _)

lemma shift_defer (o : Offset) (b : BreakpointSet) (path : String)
    (requested : List RequestedBreakpoint) :
    (b.shift o).defer path (requested.map (RequestedBreakpoint.shift o)) =
      (b.defer path requested).shift o :=
  congrArg (mk _) (Table.insert_map _ _ _ _)

lemma shift_armedIds (o : Offset) (b : BreakpointSet) : (b.shift o).armedIds = b.armedIds := by
  simp only [armedIds, shift, Offset.candidates, Table.values_map, ← List.map_flatten, List.map_map]
  rfl

end BreakpointSet

namespace Resolver

variable {r r' : Resolver}

lemma Shifts.cache (h : Shifts o r r') : r'.cache = o.candidates r.cache := congrArg Prod.fst h

lemma Shifts.between (h : Shifts o r r') : o.Between r.coords r'.coords := congrArg Prod.snd h

lemma Shifts.clear (h : Shifts o r r') : Shifts o r.clear r'.clear :=
  congrArg (Prod.mk _) h.between

lemma shifts_fresh (h : o.Between c c') : Shifts o (fresh c) (fresh c') := congrArg (Prod.mk _) h

lemma shifts_zero : Shifts 0 r r' ↔ r' = r := by
  constructor
  · intro h
    obtain ⟨cache, coords⟩ := r
    obtain ⟨cache', coords'⟩ := r'
    have hcache : cache' = cache := by simpa [Offset.candidates] using h.cache
    have hcoords : coords' = coords := Offset.between_zero.mp h.between
    rw [hcache, hcoords]
  · rintro rfl
    have hcache : Offset.candidates 0 r'.cache = r'.cache := by simp [Offset.candidates]
    exact congrArg₂ Prod.mk hcache.symm (Offset.between_zero.mpr rfl)

end Resolver

/-! ### Messages -/

def ResponseBody.shift (o : Offset) : ResponseBody → ResponseBody
  | .setBreakpoints bs => .setBreakpoints (bs.map (Breakpoint.shift o))
  | .breakpointLocations ls => .breakpointLocations (ls.map (BreakpointLocation.shift o))
  | .stackTrace fs => .stackTrace (fs.map (StackFrame.shift o))
  | body => body

def Reply.shift (o : Offset) : Reply → Reply
  | .success body => .success (body.shift o)
  | .failure message => .failure message

def Event.shift (o : Offset) : Event → Event
  | .breakpoint b => .breakpoint (b.shift o)
  | e => e

def Message.shift (o : Offset) : Message → Message
  | .response r => .response { r with reply := r.reply.shift o }
  | .event e => .event (e.shift o)

/-- What is done for the client that counts further on: only what it is sent is different. -/
def Effect.shift (o : Offset) : Effect → Effect
  | .message m ok => .message (m.shift o) ok
  | e => e

def Command.shift (o : Offset) : Command → Command
  | .setBreakpoints source requested =>
    .setBreakpoints source (requested.map (RequestedBreakpoint.shift o))
  | .breakpointLocations source requested => .breakpointLocations source (requested.shift o)
  | command => command

def Request.shift (o : Offset) (r : Request) : Request := { r with command := r.command.shift o }

@[simp] lemma ResponseBody.shift_zero : shift 0 = id := by
  funext body
  cases body <;> simp [shift]

@[simp] lemma Message.shift_zero : shift 0 = id := by
  funext m
  rcases m with ⟨seq, reply⟩ | e
  · cases reply <;> simp [shift, Reply.shift]
  · cases e <;> simp [shift, Event.shift]

@[simp] lemma Effect.shift_zero : shift 0 = id := by
  funext e
  cases e <;> simp [shift]

@[simp] lemma Command.shift_zero : shift 0 = id := by
  funext command
  cases command <;> simp [shift]

@[simp] lemma Request.shift_zero : shift 0 = id := by
  funext r
  simp [shift]

end QuantumDebug
