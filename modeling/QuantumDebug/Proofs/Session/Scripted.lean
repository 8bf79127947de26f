import QuantumDebug.Proofs.Arming
import QuantumDebug.Proofs.Session.Runs

/-!
Sessions small enough to be followed by hand: an engine that answers from a script, no panel, and a
client that misses some of the messages; or a client that misses none, with an engine that knows
where it can stop, or with an engine that writes and a panel.
-/

namespace QuantumDebug

/-- What an engine is going to answer when it is asked to load and to run. -/
structure Script where
  loads : List (Except EngineError (List Url))
  evals : List (Except EngineError StepResult)

/-- An engine that answers from a script and agrees to everything once the script is over. -/
def Engine.scripted : Engine Script where
  loadProgram _ s := (s.loads.headD (.ok []), { s with loads := s.loads.tail })
  breakpoints _ s := (.ok [], s)
  eval _ _ s := (([], s.evals.headD (.ok .completed)), { s with evals := s.evals.tail })
  stackFrames s := (.ok [], s)
  localVariables s := (.ok [], s)
  quantumState s := (.ok [], s)
  circuit s := (.ok .null, s)
  terminate s := s

/-- A client that misses some messages, counted from nought. -/
def Client.missing (misses : List Nat) : Client Nat := ⟨fun _ n => (decide (n ∉ misses), n + 1)⟩

def Surroundings.scripted (misses : List Nat) : Surroundings where
  EngineState := Script
  PanelState := Unit
  ClientState := Nat
  engine := .scripted
  panel := .absent
  client := .missing misses

lemma Surroundings.scripted_attentive_iff (misses : List Nat) :
    (scripted misses).Attentive ↔ misses = [] := by
  constructor
  · intro h
    rw [List.eq_nil_iff_forall_not_mem]
    intro n
    simpa [scripted, Client.missing] using h (.event .terminated) n
  · rintro rfl _ n
    simp [scripted, Client.missing]

/-- A session at the start of a script. A launch waits for a second in it. -/
def Debugger.scripted (misses : List Nat) (script : Script) : Debugger (.scripted misses) :=
  .start ⟨script, (), (0 : Nat), []⟩ "" 1000

lemma Debugger.scripted_fresh (misses : List Nat) (script : Script) :
    (scripted misses script).Fresh := ⟨_, _, _, rfl, rfl⟩

/-! ### Places to stop -/

/-- An engine that answers from a script, except that it names the same places in a source every
time. -/
def Engine.surveyed (places : String → Except EngineError (List EngineBreakpoint)) :
    Engine Script :=
  { Engine.scripted with breakpoints := fun source s => (places source.text, s) }

def Surroundings.surveyed (places : String → Except EngineError (List EngineBreakpoint)) :
    Surroundings where
  EngineState := Script
  PanelState := Unit
  ClientState := Unit
  engine := .surveyed places
  panel := .absent
  client := .attentive

lemma Surroundings.surveyed_attentive
    (places : String → Except EngineError (List EngineBreakpoint)) :
    (surveyed places).Attentive := fun _ _ => rfl

lemma Surroundings.surveyed_steady
    (places : String → Except EngineError (List EngineBreakpoint)) :
    (surveyed places).Steady places := fun _ _ => rfl

def Debugger.surveyed (places : String → Except EngineError (List EngineBreakpoint))
    (script : Script) : Debugger (.surveyed places) :=
  .start ⟨script, (), (), []⟩ "" 1000

lemma Debugger.surveyed_fresh (places : String → Except EngineError (List EngineBreakpoint))
    (script : Script) : (surveyed places script).Fresh := ⟨_, _, _, rfl, rfl⟩

def Url.localFile (path : String) : Url := ⟨"file", some ⟨"", none, .domain "", none⟩, path, none, none⟩

/-- One place to stop in a file and two in another, and none anywhere else. -/
def filePlaces (source : String) : Except EngineError (List EngineBreakpoint) :=
  if source = "file:///lib.qs" then .ok [⟨1, ⟨4, 8⟩, ⟨4, 20⟩⟩]
  else if source = "file:///main.qs" then .ok [⟨2, ⟨2, 4⟩, ⟨2, 12⟩⟩, ⟨3, ⟨6, 4⟩, ⟨6, 9⟩⟩]
  else .ok []

/-- A session whose program has these files, and how its runs end. -/
def Debugger.onFiles (evals : List (Except EngineError StepResult)) :
    Debugger (.surveyed filePlaces) :=
  surveyed filePlaces ⟨[.ok [.localFile "/main.qs", .localFile "/lib.qs"]], evals⟩

def Request.breakAt (seq : Int) (path : String) (line : Int) : Request :=
  ⟨seq, .setBreakpoints { Source.unnamed with path := some path } [.onLine line]⟩

def Debugger.placesOn (seq : Int) (path : String) (line : Int) : Request :=
  ⟨seq, .breakpointLocations { Source.unnamed with path := some path } (.onLine line)⟩

def Request.plainGreeting : Request := ⟨1, .initializeSession none none none⟩

/-! ### Texts and circuits -/

/-- An engine that answers from a script, except that every run writes the same texts and that it
has always the same to say about its circuit. -/
def Engine.telling (texts : List String) (circuit : Except EngineError Json) : Engine Script :=
  { Engine.scripted with
    eval := fun action armed s =>
      ((texts, (Engine.scripted.eval action armed s).1.2), (Engine.scripted.eval action armed s).2)
    circuit := fun s => (circuit, s) }

/-- A panel that is showing and takes no update. -/
def Panel.stubborn : Panel Unit := ⟨fun _ => true, fun _ p => (false, p)⟩

/-- The engine that writes, a panel, and a client that misses no message. -/
def Surroundings.telling (texts : List String) (circuit : Except EngineError Json)
    (panel : Panel Unit) : Surroundings where
  EngineState := Script
  PanelState := Unit
  ClientState := Unit
  engine := .telling texts circuit
  panel := panel
  client := .attentive

lemma Surroundings.telling_attentive (texts : List String) (circuit : Except EngineError Json)
    (panel : Panel Unit) : (telling texts circuit panel).Attentive := fun _ _ => rfl

/-- A session with such an engine at the start of a script. A launch waits for a second in it. -/
def Debugger.telling (texts : List String) (circuit : Except EngineError Json) (panel : Panel Unit)
    (script : Script) : Debugger (.telling texts circuit panel) :=
  .start ⟨script, (), (), []⟩ "" 1000

lemma Debugger.telling_fresh (texts : List String) (circuit : Except EngineError Json)
    (panel : Panel Unit) (script : Script) : (telling texts circuit panel script).Fresh :=
  ⟨_, _, _, rfl, rfl⟩

/-! ### Launches -/

def Request.plainLaunch (seq : Int) : Request :=
  ⟨seq, .launch none (some (.obj [("program", .str "file:///main.qs")]))⟩

def Request.shotsLaunch (seq shots : Int) : Request :=
  ⟨seq, .launch (some true)
    (some (.obj [("program", .str "file:///main.qs"), ("shots", .int shots)]))⟩

def Request.circuitLaunch (seq : Int) (shown : Bool) : Request :=
  ⟨seq, .launch none
    (some (.obj [("program", .str "file:///main.qs"), ("showCircuit", .bool shown)]))⟩

/-- A request to launch a program and to be told what the adapter writes to its log. -/
def Request.tracedLaunch (seq : Int) : Request :=
  ⟨seq, .launch none
    (some (.obj [("program", .str "file:///main.qs"), ("trace", .bool true)]))⟩

def RunConfiguration.plain : RunConfiguration :=
  .ofLaunch ⟨"file:///main.qs", none, none, false, false, false⟩ false

end QuantumDebug
