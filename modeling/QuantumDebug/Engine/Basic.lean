import QuantumDebug.Engine.Error
import QuantumDebug.Json.Decode
import QuantumDebug.Location

namespace QuantumDebug

/-!
What an execution engine is asked and what it answers, and how both are written as JSON.
-/

/-- How far the engine runs before it stops again. -/
inductive StepAction where
  | continue
  | next
  | stepIn
  | stepOut
deriving DecidableEq, Inhabited, Repr

/-- Where a run came to rest. -/
inductive StepResult where
  /-- On the armed breakpoint with this id. -/
  | breakpointHit (id : Int)
  /-- At the end of the program. -/
  | completed
  /-- After an ordinary step. -/
  | progressed
deriving DecidableEq, Inhabited, Repr

/-- A place where the engine can stop. -/
structure EngineBreakpoint where
  id : Int
  range : Range
deriving DecidableEq, Inhabited, Repr

/-- A call frame; engines report the innermost last. -/
structure EngineFrame where
  name : String
  source : String
  range : Range
deriving DecidableEq, Inhabited, Repr

/-- A local variable. -/
structure EngineVariable where
  name : String
  value : String
  typeName : String
deriving DecidableEq, Inhabited, Repr

/-- A basis state and its amplitude. -/
structure QuantumEntry where
  name : String
  value : String
deriving DecidableEq, Inhabited, Repr

/-! ### JSON -/

namespace StepAction

def words : List (String × StepAction) :=
  [("continue", .continue), ("next", .next), ("stepIn", .stepIn), ("stepOut", .stepOut)]

def name : StepAction → String
  | .continue => "continue"
  | .next => "next"
  | .stepIn => "stepIn"
  | .stepOut => "stepOut"

def decoder : Json.Decoder StepAction := Json.variant words

def toJson (a : StepAction) : Json := .str a.name

end StepAction

namespace Position

def decoder : Json.Decoder Position :=
  Json.Record.decoder "struct Position"
    ((fun line column => ⟨.ofNat line, .ofNat column⟩) <$> .field "line" Json.u32
      <*> .field "column" Json.u32)

def toJson (p : Position) : Json :=
  .obj [("line", .nat p.line.toNat), ("column", .nat p.column.toNat)]

end Position

namespace Range

def decoder : Json.Decoder Range :=
  Json.Record.decoder "struct Range"
    (Range.mk <$> .field "start" Position.decoder <*> .field "end" Position.decoder)

def toJson (r : Range) : Json := .obj [("start", r.first.toJson), ("end", r.last.toJson)]

end Range

namespace EngineBreakpoint

def decoder : Json.Decoder EngineBreakpoint :=
  Json.Record.decoder "struct EngineBreakpoint"
    (EngineBreakpoint.mk <$> .field "id" Json.i64 <*> .field "range" Range.decoder)

def toJson (b : EngineBreakpoint) : Json := .obj [("id", .int b.id), ("range", b.range.toJson)]

end EngineBreakpoint

namespace EngineFrame

def decoder : Json.Decoder EngineFrame :=
  Json.Record.decoder "struct EngineFrame"
    (EngineFrame.mk <$> .field "name" Json.string <*> .field "source" Json.string
      <*> .field "range" Range.decoder)

def toJson (f : EngineFrame) : Json :=
  .obj [("name", .str f.name), ("source", .str f.source), ("range", f.range.toJson)]

end EngineFrame

namespace EngineVariable

def decoder : Json.Decoder EngineVariable :=
  Json.Record.decoder "struct EngineVariable"
    (EngineVariable.mk <$> .field "name" Json.string <*> .field "value" Json.string
      <*> .field "typeName" Json.string)

def toJson (v : EngineVariable) : Json :=
  .obj [("name", .str v.name), ("value", .str v.value), ("typeName", .str v.typeName)]

end EngineVariable

namespace QuantumEntry

def decoder : Json.Decoder QuantumEntry :=
  Json.Record.decoder "struct QuantumStateEntry"
    (QuantumEntry.mk <$> .field "name" Json.string <*> .field "value" Json.string)

def toJson (e : QuantumEntry) : Json := .obj [("name", .str e.name), ("value", .str e.value)]

end QuantumEntry

namespace StepResult

/-- The kinds of results. -/
inductive Kind where
  | breakpointHit
  | completed
  | progressed
deriving DecidableEq, Inhabited, Repr

def words : List (String × Kind) :=
  [("breakpointHit", .breakpointHit), ("completed", .completed), ("progressed", .progressed)]

def kind : Json.Decoder Kind
  | .str s => Json.word words s
  | j => .error (.wrongType j.found "variant identifier")

/-- What a breakpoint hit carries. -/
def hit : Json.Record StepResult := .breakpointHit <$> .field "id" Json.i64

def decoder : Json.Decoder StepResult
  | .obj ms =>
    match Json.lookup "kind" ms with
    | none => .error (.missingField "kind")
    | some j =>
      match kind j with
      | .error e => .error e
      | .ok .breakpointHit => hit.ofMembers (ms.filter (·.1 ≠ "kind"))
      | .ok .completed => .ok .completed
      | .ok .progressed => .ok .progressed
  | .arr [] => .error (.missingField "kind")
  | .arr (j :: xs) =>
    match kind j with
    | .error e => .error e
    | .ok .breakpointHit =>
      hit.ofItems "struct variant StepResult::BreakpointHit" "1 element in sequence" xs
    | .ok k =>
      if xs ≠ [] then .error (.wrongLength xs.length "0 elements in sequence")
      else .ok (if k = .completed then .completed else .progressed)
  | j => .error (.wrongType j.found "internally tagged enum StepResult")

def toJson : StepResult → Json
  | .breakpointHit id => .obj [("kind", .str "breakpointHit"), ("id", .int id)]
  | .completed => .obj [("kind", .str "completed")]
  | .progressed => .obj [("kind", .str "progressed")]

end StepResult

end QuantumDebug
