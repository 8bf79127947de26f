import QuantumDebug.CommandLine
import QuantumDebug.Engine.Process
import QuantumDebug.Server

/-!
The adapter as a program. The client is on standard input and output. An engine is found under its
name at two pipes, one for questions that ends in `.in` and one for answers that ends in `.out`.
A turn that asks the engine something is taken again with more of the engine's answers until it
lacks none, and only then is anything shown to the client.
-/

namespace QuantumDebug

/-- Lines for an engine, and how many it takes at most if it is gone. -/
structure Outbox where
  lines : List String
  room : Option Nat

/-- The far end of the pipe with the lines. -/
def Outbox.peer : Peer Outbox where
  take line o :=
    if o.room.any (· ≤ o.lines.length) then (.refused, o)
    else (.taken [] false, { o with lines := o.lines ++ [line] })

/-- A panel that keeps a log if there is one. -/
def optionalPanel : Panel (Option LogPanel) where
  isOpen p := p.any LogPanel.panel.isOpen
  update u p :=
    match p with
    | some log => ((LogPanel.panel.update u log).1, some (LogPanel.panel.update u log).2)
    | none => (true, none)

abbrev Live : Surroundings :=
  ⟨EngineProcess Outbox, Option LogPanel, FrameWriter, EngineProcess.engine Outbox.peer,
    optionalPanel, FrameWriter.client⟩

/-- The open ends of a running adapter, and how much went out through each. -/
structure Ends where
  questions : IO.FS.Handle
  answers : IO.FS.Handle
  panel : Option IO.FS.Handle
  asked : Nat
  shown : Nat
  logged : Nat

def logText (d : Debugger Live) : String := (d.world.panel.map (·.file.text)).getD ""

/-- The questions that are due. -/
def dueQuestions (e : EngineProcess Outbox) (asked : Nat) : List String :=
  ((match e.unanswered with
    | some id => e.peer.lines.take id
    | none => e.peer.lines)).drop asked

/-- Shows the client and the panel what is new. -/
def showNew (ends : Ends) (d : Debugger Live) : IO Ends := do
  let out ← IO.getStdout
  for content in d.world.client.written.drop ends.shown do
    out.putStr (frameText content)
  out.flush
  let log := logText d
  if let some h := ends.panel then
    h.putStr (String.ofList (log.toList.drop ends.logged))
    h.flush
  return { ends with shown := d.world.client.written.length, logged := log.length }

/-- Reads a line from the engine; its last line may lack an end. -/
partial def readAnswer (h : IO.FS.Handle) (line : List UInt8) : IO (List UInt8) := do
  let b ← h.read 1
  match b.toList with
  | [] => return line.reverse
  | b :: _ => if b = 10 then return (b :: line).reverse else readAnswer h (b :: line)

/-- Takes a turn as often as the engine makes it wait. -/
partial def takeTurn (ends : Ends) (d : Debugger Live) (now : Nat) (i : Incoming) :
    IO (Bool × Debugger Live × Ends) := do
  let (going, d') := d.turn now i
  let e := d'.world.engine
  let due := dueQuestions e ends.asked
  for line in due do
    ends.questions.putStrLn line
  ends.questions.flush
  let ends := { ends with asked := ends.asked + due.length }
  if e.unanswered.isNone then
    let ends ← showNew ends d'
    return (going, { d' with world := { d'.world with trace := [] } }, ends)
  let printed ← readAnswer ends.answers []
  let last := printed.getLast? != some 10
  let e := d.world.engine.hear printed last
  let e := if last then { e with peer := { e.peer with room := some ends.asked } } else e
  takeTurn ends { d with world := { d.world with engine := e } } now i

/-- Takes turns for requests as long as the session goes on. -/
def takeRequests (ends : Ends) (d : Debugger Live) :
    List Request → IO (Bool × Debugger Live × Ends)
  | [] => return (true, d, ends)
  | r :: rs => do
    let (going, d, ends) ← takeTurn ends d (← IO.monoMsNow) (.request r)
    if going then takeRequests ends d rs else return (false, d, ends)

/-- The requests that came in, where the reading has come to, and whether any more can come. -/
abbrev Arrival := List Request × RequestReader × Bool

/-- Reads until there is a request or no more can come. -/
partial def readRequests (input : IO.FS.Stream) (reader : RequestReader) : IO Arrival := do
  let octets ← input.read (USize.ofNat reader.wanted)
  let (rs, reader) := reader.feed octets.toList
  if octets.isEmpty || !reader.reading then return (rs, reader, false)
  if rs ≠ [] then return (rs, reader, true)
  readRequests input reader

/-- Waits for requests, but not beyond the deadline of a launch. -/
partial def waitFor (arrival : Task (Except IO.Error Arrival)) (deadline : Option Nat) :
    IO Bool := do
  if ← IO.hasFinished arrival then return true
  if deadline.any (· ≤ (← IO.monoMsNow)) then return false
  IO.sleep 2
  waitFor arrival deadline

/-- Serves the client until it leaves. -/
partial def serveClient (ends : Ends) (d : Debugger Live)
    (arrival : Task (Except IO.Error Arrival)) : IO Unit := do
  if ← waitFor arrival (d.pending.map (·.deadline)) then
    match arrival.get with
    | .error _ => return
    | .ok (rs, reader, more) =>
      let (going, d, ends) ← takeRequests ends d rs
      if going && more then
        serveClient ends d (← IO.asTask (readRequests (← IO.getStdin) reader))
  else
    let (going, d, ends) ← takeTurn ends d (← IO.monoMsNow) .launchDeadline
    if going then serveClient ends d arrival

def openFile (path : String) (mode : IO.FS.Mode) : IO (Option IO.FS.Handle) := do
  try return some (← IO.FS.Handle.mk path mode) catch _ => return none

/-- Serves one client with the given settings. -/
def start (s : Settings) : IO UInt32 := do
  let stderr ← IO.getStderr
  let command := s.engineCommand.getD ""
  let questions ← openFile (command ++ ".in") .readWrite
  let answers ← openFile (command ++ ".out") .read
  let panel ← match s.panelOutput with
    | some path => openFile path .write
    | none => pure none
  let runFault (_ : String) : Option FileError :=
    if questions.isSome && answers.isSome then none else some .notFound
  let writeFault (_ : String) : Option FileError := if panel.isSome then none else some .notFound
  match s.check runFault writeFault, questions, answers with
  | .ok _, some questions, some answers =>
    let w : World Live :=
      ⟨.start ⟨[], none⟩, panel.map fun _ => .onFile ⟨"", 0⟩, .start none, []⟩
    serveClient ⟨questions, answers, panel, 0, 0, 0⟩
      (.start w s.profile s.configurationTimeout)
      (← IO.asTask (readRequests (← IO.getStdin) .start))
    return 0
  | .error e, _, _ =>
    stderr.putStr e.report
    return 1
  | _, _, _ => return 1

/-- The environment variables that the adapter heeds. -/
def variableNames : List String :=
  ["QS_DAP_ENGINE", "QS_DAP_CONFIGURATION_TIMEOUT_MS", "QS_DAP_PANEL_OUTPUT", "QS_DAP_PROFILE",
    "RUST_LOG", "QS_DAP_LOG_LEVEL"]

/-- Runs the adapter with the arguments of a command line. -/
def runAdapter (arguments : List String) : IO UInt32 := do
  match CommandLine.parse arguments with
  | .showVersion => (← IO.getStdout).putStr CommandLine.versionText; return 0
  | .showHelp => (← IO.getStdout).putStr CommandLine.helpText; return 0
  | .wrong => (← IO.getStderr).putStr CommandLine.helpText; return 2
  | .run line =>
    let values ← variableNames.mapM fun name => return (name, ← IO.getEnv name)
    let get (name : String) : Option String := (values.lookup name).join
    (← IO.getStderr).putStr (Settings.environmentWarning get)
    start (line.settings (.ofEnvironment get))

end QuantumDebug

def main (arguments : List String) : IO UInt32 := QuantumDebug.runAdapter arguments
