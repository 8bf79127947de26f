import QuantumDebug.Engine.Wire
import QuantumDebug.Surroundings
import QuantumDebug.Url.Parser

namespace QuantumDebug

/-!
An engine in a process of its own. Questions are numbered from one on, and a call waits for the
reply with its number: replies with another number are dropped, and texts that the program writes
meanwhile go to the call that waits.
-/

/-- What becomes of a line that is written to a process. -/
inductive Uptake where
  /-- Nobody reads it any more. -/
  | refused
  /-- It is read; the process prints something, and perhaps no more after that. -/
  | taken (printed : List UInt8) (last : Bool)
deriving DecidableEq, Inhabited

/-- The far end of the pipes to a process. -/
structure Peer (ρ : Type) where
  take : String → ρ → Uptake × ρ

/-- A process that is spoken to, and what has been read from it. -/
structure EngineProcess (ρ : Type) where
  nextId : Nat
  inbox : Inbox
  peer : ρ
  /-- The first question that had no reply where one might still have come. -/
  unanswered : Option Nat

/-- What a call finds among the messages. -/
structure Awaited where
  texts : List String
  reply : Option EngineReply
  rest : List EngineMessage
deriving DecidableEq, Inhabited

/-- Looks for the reply with a number. -/
def awaitReply (id : Nat) : List EngineMessage → Awaited
  | [] => ⟨[], none, []⟩
  | .reply r :: ms => if r.id = id then ⟨[], some r, ms⟩ else awaitReply id ms
  | .notification method params :: ms =>
    let a := awaitReply id ms
    if method = "output" then { a with texts := EngineMessage.outputText params :: a.texts } else a

namespace EngineProcess

variable {ρ : Type}

def start (peer : ρ) : EngineProcess ρ := ⟨1, .empty, peer, none⟩

/-- Hears what the process prints unasked. -/
def hear (e : EngineProcess ρ) (printed : List UInt8) (last : Bool) : EngineProcess ρ :=
  let inbox := e.inbox.feed printed
  { e with inbox := if last then inbox.close else inbox }

/-- The failure to write to a process that is gone. -/
def brokenPipe : EngineError := .io "Broken pipe (os error 32)"

variable (P : Peer ρ)

/-- Asks a question under the next number. -/
def send (method : String) (params : Json) (e : EngineProcess ρ) :
    Except EngineError Nat × EngineProcess ρ :=
  let (uptake, peer) := P.take (questionLine e.nextId method params) e.peer
  let e' := { e with nextId := e.nextId + 1, peer := peer }
  match uptake with
  | .refused => (.error brokenPipe, e')
  | .taken printed last => (.ok e.nextId, e'.hear printed last)

/-- The result in a reply. -/
def readReply {α : Type} (method : String) (d : Json.Decoder α) (r : EngineReply) :
    Except EngineError α :=
  match r.error with
  | some err => .error (.runtime err.message err.stackTrace)
  | none =>
    match d r.result with
    | .ok a => .ok a
    | .error fault =>
      .error (.protocol ("unexpected result for " ++ method ++ ": " ++ fault.message))

/-- Waits for the reply with a number. -/
def await {α : Type} (method : String) (d : Json.Decoder α) (id : Nat) (e : EngineProcess ρ) :
    (List String × Except EngineError α) × EngineProcess ρ :=
  let a := awaitReply id e.inbox.messages
  let e' := { e with
    inbox := { e.inbox with messages := a.rest }
    unanswered := e.unanswered.or (if a.reply.isNone && e.inbox.reading then some id else none) }
  match a.reply with
  | some r => ((a.texts, readReply method d r), e')
  | none => ((a.texts, .error .exited), e')

/-- Asks a question and waits for its reply. -/
def call {α : Type} (method : String) (params : Json) (d : Json.Decoder α) (e : EngineProcess ρ) :
    (List String × Except EngineError α) × EngineProcess ρ :=
  match e.send P method params with
  | (.error err, e) => (([], .error err), e)
  | (.ok id, e) => e.await method d id

/-- Asks a question for its result alone. -/
def query {α : Type} (method : String) (params : Json) (d : Json.Decoder α) (e : EngineProcess ρ) :
    Except EngineError α × EngineProcess ρ :=
  let ((_, answer), e) := e.call P method params d
  (answer, e)

/-- The URLs of sources, up to the first that is none. -/
def parseSources : List String → Except EngineError (List Url)
  | [] => .ok []
  | s :: ss =>
    match Url.parse s with
    | .error err =>
      .error (.protocol ("invalid source identifier '" ++ s ++ "': " ++ err.message))
    | .ok url => (parseSources ss).map (url :: ·)

/-- A failure while loading; what the process reports is about the program. -/
def loadFailure : EngineError → EngineError
  | .runtime message _ => .loadFailed message
  | e => e

def loadProgram (config : RunConfiguration) (e : EngineProcess ρ) :
    Except EngineError (List Url) × EngineProcess ρ :=
  match e.query P "loadProgram" config.toJson (Json.sequence Json.string) with
  | (.ok sources, e) => (parseSources sources, e)
  | (.error err, e) => (.error (loadFailure err), e)

def eval (action : StepAction) (armed : List Int) (e : EngineProcess ρ) :
    (List String × Except EngineError StepResult) × EngineProcess ρ :=
  e.call P "eval" (.obj [("action", action.toJson), ("breakpoints", .list .int armed)])
    StepResult.decoder

/-- The process as an engine. -/
def engine : Engine (EngineProcess ρ) where
  loadProgram := loadProgram P
  breakpoints source := query P "getBreakpoints" (.obj [("source", .str source.text)])
    (Json.sequence EngineBreakpoint.decoder)
  eval := eval P
  stackFrames := query P "getStackFrames" .null (Json.sequence EngineFrame.decoder)
  localVariables := query P "getLocalVariables" .null (Json.sequence EngineVariable.decoder)
  quantumState := query P "captureQuantumState" .null (Json.sequence QuantumEntry.decoder)
  circuit := query P "getCircuit" .null Json.any
  terminate e := (e.send P "terminate" .null).2

end EngineProcess

end QuantumDebug
