import QuantumDebug.Proofs.Offset
import QuantumDebug.Proofs.Session.Runs

/-!
Two sessions side by side. A likeness says how their worlds are related and in what else they may
differ; whatever is done to both worlds keeps them related and finds the same answers. Then every
part of a session does the same on both sides, and so does every call and every run of calls. The
client of the one may count lines and columns further on than the client of the other.
-/

namespace QuantumDebug

variable {S T : Surroundings}

/-- The same in everything but whether circuits are shown. -/
structure RunConfiguration.Agrees (c c' : RunConfiguration) : Prop where
  program : c'.program = c.program
  entryPoint : c'.entryPoint = c.entryPoint
  shotCount : c'.shotCount = c.shotCount
  noDebug : c'.noDebug = c.noDebug
  stopOnEntry : c'.stopOnEntry = c.stopOnEntry
  traceVerbose : c'.traceVerbose = c.traceVerbose

lemma RunConfiguration.Agrees.refl (c : RunConfiguration) : c.Agrees c :=
  ⟨rfl, rfl, rfl, rfl, rfl, rfl⟩

/-- The same answer on both sides, and states that are related after it. -/
def Same {α σ τ : Type} (R : σ → τ → Prop) (a : α × σ) (b : α × τ) : Prop := b.1 = a.1 ∧ R a.2 b.2

/-- The same refusal on both sides, or results that are related. -/
inductive Takes {ε α : Type} (R : α → α → Prop) : Except ε α → Except ε α → Prop where
  | refuses (e : ε) : Takes R (.error e) (.error e)
  | accepts {a b : α} (h : R a b) : Takes R (.ok a) (.ok b)

lemma Debugger.rememberView_eq (d : Debugger S) :
    d.rememberView = { d with program := { d.program with config :=
      if d.view.enabled then { d.program.config with visualizationEnabled := true }
      else d.program.config } } := by
  unfold Debugger.rememberView
  split <;> rfl

/-- What two sessions have in common, and that everything done on both sides keeps it. -/
structure Likeness (S T : Surroundings) where
  /-- How much further on the client of the second session counts. -/
  offset : Offset
  world : World S → World T → Prop
  config : RunConfiguration → RunConfiguration → Prop
  view : Visualization → Visualization → Prop
  /-- What the sessions know of the end of configuration. -/
  configured : Bool → Bool → Prop
  request : Request → Request → Prop
  loadProgram {w : World S} {w' : World T} (hw : world w w') {c c' : RunConfiguration}
    (hc : config c c') : Same world (w.loadProgram c) (w'.loadProgram c')
  breakpoints {w : World S} {w' : World T} (hw : world w w') (source : Url) :
    Same world (w.breakpoints source) (w'.breakpoints source)
  eval {w : World S} {w' : World T} (hw : world w w') (action : StepAction) (armed : List Int) :
    Same world (w.eval action armed) (w'.eval action armed)
  stackFrames {w : World S} {w' : World T} (hw : world w w') :
    Same world w.stackFrames w'.stackFrames
  localVariables {w : World S} {w' : World T} (hw : world w w') :
    Same world w.localVariables w'.localVariables
  quantumState {w : World S} {w' : World T} (hw : world w w') :
    Same world w.quantumState w'.quantumState
  terminate {w : World S} {w' : World T} (hw : world w w') : world w.terminate w'.terminate
  record {w : World S} {w' : World T} (hw : world w w') (t : Telemetry) :
    world (w.record t) (w'.record t)
  send {w : World S} {w' : World T} (hw : world w w') (m : Message) :
    Same world (w.send m) (w'.send (m.shift offset))
  update {w : World S} {w' : World T} (hw : world w w') {v v' : Visualization} (hv : view v v')
    (failure : Option EngineError) :
    view (v.update failure w).1 (v'.update failure w').1 ∧
      world (v.update failure w).2 (v'.update failure w').2
  config_refl (c : RunConfiguration) : config c c
  agrees {c c' : RunConfiguration} (hc : config c c') : c.Agrees c'
  enable {v v' : Visualization} (hv : view v v') : view v.enable v'.enable
  setProgram {v v' : Visualization} (hv : view v v') (program : String) :
    view (v.setProgram program) (v'.setProgram program)
  shows {c c' : RunConfiguration} (hc : config c c') {v v' : Visualization} (hv : view v v') :
    view (if c.visualizationEnabled then v.enable else v)
      (if c'.visualizationEnabled then v'.enable else v')
  remembers {c c' : RunConfiguration} (hc : config c c') {v v' : Visualization} (hv : view v v') :
    config (if v.enabled then { c with visualizationEnabled := true } else c)
      (if v'.enabled then { c' with visualizationEnabled := true } else c')
  configured_true : configured true true
  seq {r r' : Request} (hr : request r r') : r'.seq = r.seq
  /-- A greeting says how a client counts, so that it is not the same for clients that do not count
  alike. -/
  command {r r' : Request} (hr : request r r') : (r'.command = r.command.shift offset ∧
      ∀ lines columns types, r.command = .initializeSession lines columns types → offset = 0) ∨
    ∃ noDebug data data', r.command = .launch noDebug data ∧ r'.command = .launch noDebug data' ∧
      Takes config (Debugger.launchConfiguration noDebug data)
        (Debugger.launchConfiguration noDebug data')

namespace Likeness

variable (L : Likeness S T)

/-! ### What is alike -/

/-- Programs that differ in their configuration and in how their clients count at most. -/
structure Programs (p q : Program) : Prop where
  config : L.config p.config q.config
  sources : q.sources = p.sources
  resolver : p.resolver.Shifts L.offset q.resolver
  breakpoints : q.breakpoints = p.breakpoints.shift L.offset
  loaded : q.loaded = p.loaded

/-- Launches that wait for the same time. -/
structure Launches (l l' : PendingLaunch) : Prop where
  request : L.request l.request l'.request
  deadline : l'.deadline = l.deadline

/-- Sessions that are alike. -/
structure Alike (d : Debugger S) (d' : Debugger T) : Prop where
  world : L.world d.world d'.world
  program : L.Programs d.program d'.program
  view : L.view d.view d'.view
  inspector : d'.inspector = d.inspector
  phase : d'.phase = d.phase
  coords : L.offset.Between d.coords d'.coords
  configured : L.configured d.configured d'.configured
  pending : Option.Rel L.Launches d.pending d'.pending
  timeout : d'.timeout = d.timeout

/-- Calls at the same times. -/
inductive Calls : Call → Call → Prop where
  | request (now later : Nat) {r r' : Request} (hr : L.request r r') :
      Calls (.request now later r) (.request now later r')
  | resume (now : Nat) : Calls (.resume now) (.resume now)

/-- Places are found that differ as the clients count, and what is kept and the worlds are alike. -/
def Finds {α : Type} (shift : α → α) (a : List α × Resolver × World S)
    (b : List α × Resolver × World T) : Prop :=
  b.1 = a.1.map shift ∧ a.2.1.Shifts L.offset b.2.1 ∧ L.world a.2.2 b.2.2

/-- Answers that differ as the clients count, and programs and worlds that are alike. -/
def Loads {α : Type} (shift : α → α) (a : α × Program × World S) (b : α × Program × World T) :
    Prop :=
  b.1 = shift a.1 ∧ L.Programs a.2.1 b.2.1 ∧ L.world a.2.2 b.2.2

def Results (h : Handled S) (h' : Handled T) : Prop := h'.1 = h.1 ∧ L.Alike h.2 h'.2

variable {L} {w : World S} {w' : World T} {p q : Program} {v v' : Visualization} {d : Debugger S}
  {d' : Debugger T} {r r' : Request}

lemma Programs.eq (hp : L.Programs p q) (hoffset : L.offset = 0)
    (hconfig : q.config = p.config) : q = p := by
  obtain ⟨-, hsources, hresolver, hbreakpoints, hloaded⟩ := hp
  rw [hoffset, Resolver.shifts_zero] at hresolver
  rw [hoffset, BreakpointSet.shift_zero, id_eq] at hbreakpoints
  cases p
  cases q
  simp_all

lemma Launches.eq {l l' : PendingLaunch} (hl : L.Launches l l')
    (hrequest : l'.request = l.request) : l' = l := by
  obtain ⟨-, hdeadline⟩ := hl
  cases l
  cases l'
  simp_all

/-! ### The program -/

lemma Programs.setBreakpoints (hp : L.Programs p q) {b b' : BreakpointSet}
    (hb : b' = b.shift L.offset) :
    L.Programs { p with breakpoints := b } { q with breakpoints := b' } :=
  { hp with breakpoints := hb }

lemma Programs.setResolver (hp : L.Programs p q) {r r' : Resolver} (hr : r.Shifts L.offset r') :
    L.Programs { p with resolver := r } { q with resolver := r' } :=
  { hp with resolver := hr }

lemma load_finds {r r' : Resolver} (hr : r.Shifts L.offset r') (hw : L.world w w') (source : Url) :
    L.Finds (Candidate.shift L.offset) (r.load source w) (r'.load source w') := by
  have hkept : r'.cache.get? source.text =
      (r.cache.get? source.text).map (List.map (Candidate.shift L.offset)) := by
    rw [hr.cache]
    exact Table.get?_map _ _ _
  unfold Resolver.load
  rw [hkept]
  cases r.cache.get? source.text with
  | some ks => exact ⟨rfl, hr, hw⟩
  | none =>
    obtain ⟨hanswer, hw⟩ := L.breakpoints hw source
    have hks := hr.between.candidates (w.breakpoints source).1
    refine ⟨?_, ?_, hw⟩
    · exact (congrArg _ hanswer).trans hks
    · refine congrArg₂ Prod.mk ?_ hr.between
      show r'.cache.insert source.text (Resolver.candidates r'.coords (w'.breakpoints source).1) = _
      rw [hanswer, hks, hr.cache]
      exact Table.insert_map _ _ _ _

lemma resolve_finds {r r' : Resolver} (hr : r.Shifts L.offset r') (hw : L.world w w')
    (source : Url) (requested : List RequestedBreakpoint) :
    L.Finds (Candidate.shift L.offset) (r.resolve source requested w)
      (r'.resolve source (requested.map (RequestedBreakpoint.shift L.offset)) w') := by
  obtain ⟨hks, hresolver, hw⟩ := load_finds hr hw source
  refine ⟨?_, hresolver, hw⟩
  show Resolver.select r'.coords _ (r'.load source w').1 = _
  rw [hks]
  exact hr.between.select requested _

lemma query_finds {r r' : Resolver} (hr : r.Shifts L.offset r') (hw : L.world w w')
    (source : Url) (requested : RequestedBreakpoint) :
    L.Finds (ClientRange.shift L.offset) (r.query source requested w)
      (r'.query source (requested.shift L.offset) w') := by
  obtain ⟨hks, hresolver, hw⟩ := load_finds hr hw source
  refine ⟨?_, hresolver, hw⟩
  show ((r'.load source w').1.filter _).map Candidate.clientRange =
    ((((r.load source w).1.filter _).map Candidate.clientRange).map _)
  rw [hks, hr.between.filter_accepts, List.map_map, List.map_map]
  rfl

lemma arm_loads (hp : L.Programs p q) (hw : L.world w w') (source : Url)
    (requested : List RequestedBreakpoint) :
    L.Loads (List.map (Candidate.shift L.offset)) (p.arm source requested w)
      (q.arm source (requested.map (RequestedBreakpoint.shift L.offset)) w') := by
  obtain ⟨hks, hresolver, hw⟩ := resolve_finds hp.resolver hw source requested
  refine ⟨hks, { hp with resolver := hresolver, breakpoints := ?_ }, hw⟩
  refine (congrArg (q.breakpoints.replace source.text) hks).trans ?_
  rw [hp.breakpoints]
  exact BreakpointSet.shift_replace _ _ _ _

lemma armAll_loads (hp : L.Programs p q) (hw : L.world w w')
    (waiting : List (String × List RequestedBreakpoint)) :
    L.Loads (List.map (Breakpoint.shift L.offset)) (p.armAll w waiting)
      (q.armAll w' (waiting.map fun e => (e.1, e.2.map (RequestedBreakpoint.shift L.offset)))) := by
  induction waiting generalizing p q w w' with
  | nil => exact ⟨rfl, hp, hw⟩
  | cons request rest ih =>
    rw [List.map_cons]
    unfold Program.armAll
    rw [hp.sources]
    split
    · exact ih hp hw
    · obtain ⟨hks, hq, hw⟩ := arm_loads hp hw ‹Url› request.2
      obtain ⟨hbs, hq, hw⟩ := ih hq hw
      refine ⟨?_, hq, hw⟩
      dsimp only
      rw [hks, hbs, List.map_append, List.map_map, List.map_map]
      rfl

lemma load_loads (hp : L.Programs p q) (hw : L.world w w') :
    L.Loads (Except.map (List.map (Breakpoint.shift L.offset))) (p.load w) (q.load w') := by
  obtain ⟨hverdict, hasked⟩ := L.loadProgram hw hp.config
  have hverdict : q.verdict w' = p.verdict w := hverdict
  rcases hanswer : p.verdict w with e | urls
  · rw [Program.load_error hanswer, Program.load_error (hverdict.trans hanswer)]
    exact ⟨rfl, { hp with resolver := hp.resolver.clear, loaded := rfl }, hasked⟩
  · rw [Program.load_ok hanswer, Program.load_ok (hverdict.trans hanswer), hp.breakpoints]
    have hready : L.Programs (p.ready urls) (q.ready urls) :=
      ⟨hp.config, rfl, hp.resolver.clear,
        congrArg (fun b : BreakpointSet => b.takeDeferred.2) hp.breakpoints, rfl⟩
    obtain ⟨hbs, harmed⟩ := armAll_loads hready hasked p.breakpoints.takeDeferred.1
    exact ⟨congrArg Except.ok hbs, harmed⟩

/-! ### Runs -/

lemma output_world (hw : L.world w w') (category : OutputCategory) (text : String) :
    L.world (w.output category text) (w'.output category text) :=
  (L.send hw (.event (.output category text))).2

lemma forward_world (hw : L.world w w') (texts : List String) :
    L.world (w.forward texts) (w'.forward texts) := by
  induction texts generalizing w w' with
  | nil => exact hw
  | cons text texts ih => exact ih (output_world hw _ _)

lemma runStep_alike (hv : L.view v v') (hw : L.world w w') (action : StepAction)
    (armed : List Int) :
    (runStep action armed v' w').1 = (runStep action armed v w).1 ∧
      L.view (runStep action armed v w).2.1 (runStep action armed v' w').2.1 ∧
      L.world (runStep action armed v w).2.2 (runStep action armed v' w').2.2 := by
  have hanswer := L.eval hw action armed
  unfold runStep
  generalize w.eval action armed = a at hanswer
  generalize w'.eval action armed = b at hanswer
  obtain ⟨_, w₁⟩ := a
  obtain ⟨⟨texts, answer⟩, w₁'⟩ := b
  obtain ⟨rfl, hw⟩ := hanswer
  exact ⟨rfl, L.update (forward_world hw texts) hv _⟩

def Ends (a : ShotsOutcome × Program × Visualization × World S)
    (b : ShotsOutcome × Program × Visualization × World T) : Prop :=
  b.1 = a.1 ∧ L.Programs a.2.1 b.2.1 ∧ L.view a.2.2.1 b.2.2.1 ∧ L.world a.2.2.2 b.2.2.2

lemma runShotsLeft_ends (hp : L.Programs p q) (hv : L.view v v') (hw : L.world w w')
    (total left : Nat) :
    L.Ends (runShotsLeft Program.reload total left p v w)
      (runShotsLeft Program.reload total left q v' w') := by
  induction left generalizing p q v v' w w' with
  | zero => exact ⟨rfl, hp, hv, hw⟩
  | succ left ih =>
    have hrun := runStep_alike hv hw .continue []
    unfold runShotsLeft
    generalize runStep .continue [] v w = a at hrun
    generalize runStep .continue [] v' w' = b at hrun
    obtain ⟨_, v₁, w₁⟩ := a
    obtain ⟨outcome, v₁', w₁'⟩ := b
    obtain ⟨rfl, hv, hw⟩ := hrun
    cases outcome with
    | failed e => exact ⟨rfl, hp, hv, hw⟩
    | breakpointHit id => exact ⟨rfl, hp, hv, hw⟩
    | progressed => exact ⟨rfl, hp, hv, hw⟩
    | completed =>
      have hw := output_world hw .console (finishedShot (total - left) total)
      dsimp only
      split
      · exact ⟨rfl, hp, hv, hw⟩
      · have hload := load_loads hp hw
        simp only [Program.reload]
        generalize p.load _ = a at hload
        generalize q.load _ = b at hload
        obtain ⟨answer, p₁, w₂⟩ := a
        obtain ⟨_, q₁, w₂'⟩ := b
        obtain ⟨rfl, hq, hw⟩ := hload
        cases answer with
        | error e => exact ⟨rfl, hq, hv, hw⟩
        | ok bs => exact ih hq hv hw

/-! ### The moves of a session -/

lemma andThen_alike {h : Handled S} {h' : Handled T} {f : Debugger S → Handled S}
    {f' : Debugger T → Handled T} (hh : L.Results h h')
    (hf : ∀ d d', L.Alike d d' → L.Results (f d) (f' d')) :
    L.Results (h.andThen f) (h'.andThen f') := by
  obtain ⟨_, d⟩ := h
  obtain ⟨answer, d'⟩ := h'
  obtain ⟨rfl, hd⟩ := hh
  cases answer with
  | error e => exact ⟨rfl, hd⟩
  | ok u => exact hf d d' hd

lemma failWith_alike {h : Handled S} {h' : Handled T} (hh : L.Results h h') (e : SessionError) :
    L.Results (h.failWith e) (h'.failWith e) :=
  andThen_alike hh fun _ _ hd => ⟨rfl, hd⟩

lemma Alike.setWorld (h : L.Alike d d') (hw : L.world w w') :
    L.Alike { d with world := w } { d' with world := w' } :=
  { h with world := hw }

lemma Alike.setProgram (h : L.Alike d d') (hp : L.Programs p q) (hw : L.world w w') :
    L.Alike { d with program := p, world := w } { d' with program := q, world := w' } :=
  { h with program := hp, world := hw }

lemma Alike.done (h : L.Alike d d') : L.Results d.done d'.done := ⟨rfl, h⟩

lemma Alike.send (h : L.Alike d d') (m : Message) :
    L.Results (d.send m) (d'.send (m.shift L.offset)) := by
  have hsend := L.send h.world m
  unfold Debugger.send
  generalize d.world.send m = a at hsend
  generalize d'.world.send (m.shift L.offset) = b at hsend
  obtain ⟨_, w⟩ := a
  obtain ⟨ok, w'⟩ := b
  obtain ⟨rfl, hw⟩ := hsend
  cases ok
  · exact ⟨rfl, { h with world := hw }⟩
  · exact ⟨rfl, { h with world := hw }⟩

lemma Alike.tellAll (h : L.Alike d d') (events : List Event) :
    L.Results (d.tellAll events) (d'.tellAll (events.map (Event.shift L.offset))) := by
  induction events generalizing d d' with
  | nil => exact h.done
  | cons e events ih => exact andThen_alike (h.send (.event e)) fun _ _ hd => ih hd

lemma Alike.answer (h : L.Alike d d') (hseq : r'.seq = r.seq) (body : ResponseBody) :
    L.Results (d.respond r body) (d'.respond r' (body.shift L.offset)) := by
  have hresponse : r'.success (body.shift L.offset) = r.success (body.shift L.offset) := by
    rw [Request.success, hseq]
    rfl
  unfold Debugger.respond
  rw [hresponse]
  exact h.send _

lemma Alike.respond (h : L.Alike d d') (hr : L.request r r') (body : ResponseBody) :
    L.Results (d.respond r body) (d'.respond r' (body.shift L.offset)) :=
  h.answer (L.seq hr) body

lemma Alike.refuse (h : L.Alike d d') (hr : L.request r r') (text : String) :
    L.Results (d.refuse r text) (d'.refuse r' text) := by
  have hresponse : r'.failure text = r.failure text := by rw [Request.failure, L.seq hr]; rfl
  unfold Debugger.refuse
  rw [hresponse]
  exact h.send _

lemma Alike.endSession (h : L.Alike d d') (message : String) (code : Int) :
    L.Results (d.endSession message code) (d'.endSession message code) := by
  unfold Debugger.endSession
  rw [h.phase]
  split
  · exact h.done
  · have hclosed : L.Alike (d.closed code) (d'.closed code) :=
      { h with
        world := L.record h.world _
        inspector := congrArg Inspector.reset h.inspector
        phase := rfl
        pending := .none }
    exact hclosed.tellAll _

lemma Alike.reportAndEnd (h : L.Alike d d') (e : EngineError) (message : String) (code : Int) :
    L.Results ((d.report e).andThen (·.endSession message code))
      ((d'.report e).andThen (·.endSession message code)) :=
  andThen_alike (h.send _) fun _ _ hd => hd.endSession message code

lemma Alike.step (h : L.Alike d d') (action : StepAction) :
    L.Results (d.step action) (d'.step action) := by
  by_cases hphase : d.phase = .running
  · have hrun := runStep_alike h.view h.world action d.program.breakpoints.armedIds
    rw [Debugger.step, Debugger.step, if_pos hphase, if_pos (h.phase.trans hphase),
      h.program.breakpoints, BreakpointSet.shift_armedIds]
    generalize runStep action d.program.breakpoints.armedIds d.view d.world = a at hrun
    generalize runStep action d.program.breakpoints.armedIds d'.view d'.world = b at hrun
    obtain ⟨_, v, w⟩ := a
    obtain ⟨outcome, v', w'⟩ := b
    obtain ⟨rfl, hv, hw⟩ := hrun
    have hd : L.Alike { d with inspector := d.inspector.reset, view := v, world := w }
        { d' with inspector := d'.inspector.reset, view := v', world := w' } :=
      { h with world := hw, view := hv, inspector := congrArg Inspector.reset h.inspector }
    cases outcome with
    | failed e => exact hd.reportAndEnd e _ _
    | completed => exact hd.endSession _ _
    | breakpointHit id => exact hd.send _
    | progressed => exact hd.send _
  · rw [Debugger.step, Debugger.step, if_neg hphase, if_neg (h.phase ▸ hphase)]
    exact h.done

lemma Alike.runAllShots (h : L.Alike d d') : L.Results d.runAllShots d'.runAllShots := by
  have hrun := runShotsLeft_ends h.program h.view h.world (max d.program.config.shotCount 1)
    (max d.program.config.shotCount 1)
  unfold Debugger.runAllShots runShots
  rw [(L.agrees h.program.config).shotCount]
  generalize runShotsLeft Program.reload _ _ d.program d.view d.world = a at hrun
  generalize runShotsLeft Program.reload _ _ d'.program d'.view d'.world = b at hrun
  obtain ⟨_, p, v, w⟩ := a
  obtain ⟨outcome, q, v', w'⟩ := b
  obtain ⟨rfl, hp, hv, hw⟩ := hrun
  have hd : L.Alike
      { d with inspector := d.inspector.reset, program := p, view := v, world := w }
      { d' with inspector := d'.inspector.reset, program := q, view := v', world := w' } :=
    { h with
      world := hw
      program := hp
      view := hv
      inspector := congrArg Inspector.reset h.inspector }
  cases outcome with
  | failed shot e => exact hd.reportAndEnd e _ _
  | completed => exact hd.endSession _ _
  | incomplete shot => exact hd.endSession _ _

lemma Alike.run (h : L.Alike d d') : L.Results d.run d'.run := by
  unfold Debugger.run
  rw [(L.agrees h.program.config).noDebug, (L.agrees h.program.config).stopOnEntry]
  split
  · exact h.runAllShots
  · exact h.step _

lemma Alike.advance (h : L.Alike d d') (p : Phase) : L.Alike (d.advance p) (d'.advance p) :=
  { h with phase := congrArg (·.advance p) h.phase }

/-- Sessions that know the same of the end of configuration resume at the same time. -/
lemma Alike.resume (strict : ∀ a b, L.configured a b → b = a) (h : L.Alike d d') (now : Nat) :
    L.Results (d.resume now) (d'.resume now) := by
  have hpending := h.pending
  unfold Debugger.resume
  generalize hl : d.pending = a at hpending
  generalize hl' : d'.pending = b at hpending
  cases hpending with
  | none => exact h.done
  | @some l l' hll =>
    have hready : (d'.configured = true ∨ l'.deadline ≤ now) ↔
        (d.configured = true ∨ l.deadline ≤ now) := by
      rw [strict _ _ h.configured, hll.deadline]
    simp only [hready]
    split
    · have hd : L.Alike { d with pending := none } { d' with pending := none } :=
        { h with pending := .none }
      exact andThen_alike (hd.respond hll.request .launch) fun _ _ hd => (hd.advance .running).run
    · exact h.done

/-! ### Requests -/

lemma Alike.welcome {lines columns lines' columns' types : Option Bool}
    (h : L.Alike (d.greeted lines columns types) (d'.greeted lines' columns' types))
    (hseq : r'.seq = r.seq) :
    L.Results (d.greet r lines columns types) (d'.greet r' lines' columns' types) :=
  andThen_alike (h.answer hseq .initializeSession) fun _ _ hd => hd.send (.event .initialized)

lemma Alike.greet (h : L.Alike d d') (hr : L.request r r') (hoffset : L.offset = 0)
    (lines columns types : Option Bool) :
    L.Results (d.greet r lines columns types) (d'.greet r' lines columns types) := by
  have hcoords : L.offset.Between (.ofClient lines columns) (.ofClient lines columns) := by
    rw [hoffset, Offset.between_zero]
  have hd : L.Alike (d.greeted lines columns types) (d'.greeted lines columns types) :=
    { h with
      program := { h.program with resolver := Resolver.shifts_fresh hcoords }
      inspector := congrArg (·.setSupportsVariableType (types.getD false)) h.inspector
      phase := congrArg (·.advance .initialized) h.phase
      coords := hcoords }
  exact hd.welcome (L.seq hr)

lemma Alike.configure (h : L.Alike d d') {c c' : RunConfiguration} (hc : L.config c c') :
    L.Alike (d.configure c) (d'.configure c') where
  world := by
    unfold Debugger.configure
    rw [(L.agrees hc).noDebug, (L.agrees hc).shotCount]
    exact L.record h.world _
  program := { h.program with config := hc }
  view := by
    unfold Debugger.configure
    rw [(L.agrees hc).program]
    exact L.setProgram (L.shows hc h.view) c.program
  inspector := h.inspector
  phase := h.phase
  coords := h.coords
  configured := h.configured
  pending := h.pending
  timeout := h.timeout

lemma Alike.await (h : L.Alike d d') (hr : L.request r r') (now : Nat) :
    L.Alike (d.await now r) (d'.await now r') :=
  { h.advance .awaitingConfiguration with
    pending := .some ⟨hr, congrArg (now + ·) h.timeout⟩ }

lemma Alike.launchWith (strict : ∀ a b, L.configured a b → b = a) (h : L.Alike d d')
    (hr : L.request r r') {c c' : RunConfiguration} (hc : L.config c c') (now later : Nat) :
    L.Results (d.launchWith now later r c) (d'.launchWith now later r' c') := by
  have hd := h.configure hc
  have hload := load_loads hd.program hd.world
  unfold Debugger.launchWith
  dsimp only
  generalize (d.configure c).program.load _ = a at hload
  generalize (d'.configure c').program.load _ = b at hload
  obtain ⟨answer, p, w⟩ := a
  obtain ⟨_, q, w'⟩ := b
  obtain ⟨rfl, hp, hw⟩ := hload
  have hd := hd.setProgram hp hw
  cases answer with
  | error e => exact andThen_alike (hd.refuse hr e.message) fun _ _ hd => hd.endSession _ _
  | ok armed =>
    have hevents : (armed.map (Breakpoint.shift L.offset)).map Event.breakpoint =
        (armed.map Event.breakpoint).map (Event.shift L.offset) := by
      rw [List.map_map, List.map_map]
      rfl
    dsimp only [Except.map]
    rw [hevents]
    exact andThen_alike (hd.tellAll (armed.map .breakpoint)) fun _ _ hd =>
      (hd.await hr now).resume strict later

lemma Alike.launch (strict : ∀ a b, L.configured a b → b = a) (h : L.Alike d d')
    (hr : L.request r r') {noDebug : Option Bool} {data data' : Option Json}
    (takes : Takes L.config (Debugger.launchConfiguration noDebug data)
      (Debugger.launchConfiguration noDebug data')) (now later : Nat) :
    L.Results (d.launch now later r noDebug data) (d'.launch now later r' noDebug data') := by
  unfold Debugger.launch
  rw [h.phase]
  split
  · exact failWith_alike (h.refuse hr _) _
  · generalize Debugger.launchConfiguration noDebug data = a at takes
    generalize Debugger.launchConfiguration noDebug data' = b at takes
    cases takes with
    | refuses e => exact failWith_alike (h.refuse hr _) _
    | accepts hc => exact h.launchWith strict hr hc now later

lemma Alike.configurationDone (strict : ∀ a b, L.configured a b → b = a) (h : L.Alike d d')
    (hr : L.request r r') (now : Nat) :
    L.Results (d.configurationDone now r) (d'.configurationDone now r') := by
  refine andThen_alike (h.respond hr .configurationDone) fun d d' hd => ?_
  have hd : L.Alike { d with configured := true } { d' with configured := true } :=
    { hd with configured := L.configured_true }
  exact hd.resume strict now

lemma Alike.setBreakpoints (h : L.Alike d d') (hr : L.request r r') (source : Source)
    (requested : List RequestedBreakpoint) :
    L.Results (d.setBreakpoints r source requested)
      (d'.setBreakpoints r' source (requested.map (RequestedBreakpoint.shift L.offset))) := by
  unfold Debugger.setBreakpoints
  rw [h.program.loaded, h.program.sources]
  split
  · split
    · obtain ⟨hks, hp, hw⟩ := arm_loads h.program h.world ‹Url› requested
      have hbreakpoints (ks : List Candidate) :
          (ks.map (Candidate.shift L.offset)).map (·.toBreakpoint source) =
            (ks.map (·.toBreakpoint source)).map (Breakpoint.shift L.offset) := by
        rw [List.map_map, List.map_map]
        rfl
      dsimp only
      rw [hks, hbreakpoints]
      exact (h.setProgram hp hw).respond hr (.setBreakpoints _)
    · exact h.respond hr (.setBreakpoints [])
  · refine (h.setProgram (h.program.setBreakpoints ?_) h.world).respond hr (.setBreakpoints [])
    rw [h.program.breakpoints]
    cases source.path with
    | none => rfl
    | some path => exact BreakpointSet.shift_defer _ _ _ _

lemma Alike.breakpointLocations (h : L.Alike d d') (hr : L.request r r') (source : Source)
    (requested : RequestedBreakpoint) :
    L.Results (d.breakpointLocations r source requested)
      (d'.breakpointLocations r' source (requested.shift L.offset)) := by
  unfold Debugger.breakpointLocations
  rw [h.program.loaded, h.program.sources]
  split
  · split
    · obtain ⟨hplaces, hresolver, hw⟩ :=
        query_finds h.program.resolver h.world ‹Url› requested
      have hlocations (places : List ClientRange) :
          (places.map (ClientRange.shift L.offset)).map ClientRange.toLocation =
            (places.map ClientRange.toLocation).map (BreakpointLocation.shift L.offset) := by
        rw [List.map_map, List.map_map]
        rfl
      dsimp only
      rw [hplaces, hlocations]
      exact (h.setProgram (h.program.setResolver hresolver) hw).respond hr
        (.breakpointLocations _)
    · exact h.respond hr (.breakpointLocations [])
  · exact h.respond hr (.breakpointLocations [])

lemma Alike.clientFrames (h : L.Alike d d') (frames : List EngineFrame) :
    d'.clientFrames frames = (d.clientFrames frames).map (StackFrame.shift L.offset) := by
  have hframe (id : Int) (f : EngineFrame) :
      d'.clientFrame id f = (d.clientFrame id f).shift L.offset := by
    rw [Debugger.clientFrame, Debugger.frameSource, h.coords.rangeToClient, h.program.sources]
    rfl
  have hnumber (first : Int) (fs : List EngineFrame) :
      d'.numberFrames first fs =
        (d.numberFrames first fs).map (StackFrame.shift L.offset) := by
    induction fs generalizing first with
    | nil => rfl
    | cons f fs ih =>
      rw [Debugger.numberFrames, Debugger.numberFrames, List.map_cons, hframe, ih]
  rw [Debugger.clientFrames, Debugger.clientFrames, List.map_append, hnumber]
  rfl

lemma Alike.stackTrace (h : L.Alike d d') (hr : L.request r r') :
    L.Results (d.stackTrace r) (d'.stackTrace r') := by
  obtain ⟨hanswer, hw⟩ := L.stackFrames h.world
  unfold Debugger.stackTrace
  dsimp only
  rw [hanswer, h.clientFrames]
  exact (h.setWorld hw).respond hr (.stackTrace _)

lemma Alike.scopes (h : L.Alike d d') (hr : L.request r r') :
    L.Results (d.scopes r) (d'.scopes r') := by
  have hd : L.Alike { d with inspector := d.inspector.scopes.2 }
      { d' with inspector := d.inspector.scopes.2 } := { h with inspector := rfl }
  unfold Debugger.scopes
  rw [h.inspector]
  exact hd.respond hr _

lemma Alike.rememberView (h : L.Alike d d') : L.Alike d.rememberView d'.rememberView := by
  rw [d.rememberView_eq, d'.rememberView_eq]
  exact h.setProgram { h.program with config := L.remembers h.program.config h.view } h.world

lemma lookInto_alike (hv : L.view v v') (hw : L.world w w') (i : Inspector) (reference : Int) :
    (i.lookInto reference v' w').1 = (i.lookInto reference v w).1 ∧
      L.view (i.lookInto reference v w).2.1 (i.lookInto reference v' w').2.1 ∧
      L.world (i.lookInto reference v w).2.2 (i.lookInto reference v' w').2.2 := by
  unfold Inspector.lookInto
  split
  · exact ⟨rfl, hv, hw⟩
  · obtain ⟨hanswer, hw⟩ := L.localVariables hw
    dsimp only [Inspector.locals]
    rw [hanswer]
    exact ⟨rfl, hv, hw⟩
  · have hasked := L.quantumState hw
    simp only [Inspector.quantumState]
    generalize w.quantumState = a at hasked
    generalize w'.quantumState = b at hasked
    obtain ⟨_, w₁⟩ := a
    obtain ⟨answer, w₁'⟩ := b
    obtain ⟨rfl, hw⟩ := hasked
    cases answer with
    | ok entries => exact ⟨rfl, hv, L.record hw _⟩
    | error e => exact ⟨rfl, hv, hw⟩
  · exact ⟨rfl, L.update hw (L.enable hv) none⟩

lemma Alike.lookInto (h : L.Alike d d') (hr : L.request r r') (reference : Int) :
    L.Results (d.lookInto r reference) (d'.lookInto r' reference) := by
  obtain ⟨hvars, hv, hw⟩ := lookInto_alike h.view h.world d.inspector reference
  have hd : L.Alike
      { d with
        view := (d.inspector.lookInto reference d.view d.world).2.1
        world := (d.inspector.lookInto reference d.view d.world).2.2 }
      { d' with
        view := (d.inspector.lookInto reference d'.view d'.world).2.1
        world := (d.inspector.lookInto reference d'.view d'.world).2.2
        inspector := d.inspector } :=
    { h with view := hv, world := hw, inspector := rfl }
  unfold Debugger.lookInto
  rw [h.inspector]
  dsimp only
  rw [hvars]
  exact hd.rememberView.respond hr _

lemma Alike.respondAndStep (h : L.Alike d d') (hr : L.request r r') (body : ResponseBody)
    (action : StepAction) :
    L.Results (d.respondAndStep r body action)
      (d'.respondAndStep r' (body.shift L.offset) action) :=
  andThen_alike (h.respond hr body) fun _ _ hd => hd.step action

lemma Alike.terminate (h : L.Alike d d') (hr : L.request r r') :
    L.Results (d.terminate r) (d'.terminate r') :=
  andThen_alike ((h.setWorld (L.terminate h.world)).respond hr _) fun _ _ hd =>
    hd.endSession _ _

lemma Alike.disconnect (h : L.Alike d d') (hr : L.request r r') :
    L.Results (d.disconnect r) (d'.disconnect r') := by
  have hd : L.Alike { d with world := d.world.terminate, pending := none }
      { d' with world := d'.world.terminate, pending := none } :=
    { h with world := L.terminate h.world, pending := .none }
  exact failWith_alike ((hd.advance .terminated).respond hr .disconnect) _

/-! ### Calls -/

lemma Alike.handle (strict : ∀ a b, L.configured a b → b = a) (h : L.Alike d d')
    (hr : L.request r r') (now later : Nat) :
    L.Results (d.handle now r later) (d'.handle now r' later) := by
  rcases L.command hr with ⟨hcommand, hgreeting⟩ | ⟨noDebug, data, data', command, command', takes⟩
  · unfold Debugger.handle
    rw [hcommand]
    cases command : r.command with
    | initializeSession lines columns types => exact h.greet hr (hgreeting _ _ _ command) _ _ _
    | launch noDebug data =>
      have takes : Takes L.config (Debugger.launchConfiguration noDebug data)
          (Debugger.launchConfiguration noDebug data) := by
        cases Debugger.launchConfiguration noDebug data with
        | error e => exact .refuses e
        | ok c => exact .accepts (L.config_refl c)
      exact h.launch strict hr takes now later
    | configurationDone => exact h.configurationDone strict hr now
    | setBreakpoints source requested => exact h.setBreakpoints hr source requested
    | breakpointLocations source requested => exact h.breakpointLocations hr source requested
    | setExceptionBreakpoints => exact h.respond hr .setExceptionBreakpoints
    | setFunctionBreakpoints => exact h.respond hr .setFunctionBreakpoints
    | threads => exact h.respond hr (.threads _)
    | stackTrace => exact h.stackTrace hr
    | scopes => exact h.scopes hr
    | «variables» reference => exact h.lookInto hr reference
    | «continue» => exact h.respondAndStep hr .continue .continue
    | next => exact h.respondAndStep hr .next .next
    | stepIn => exact h.respondAndStep hr .stepIn .stepIn
    | stepOut => exact h.respondAndStep hr .stepOut .stepOut
    | terminate => exact h.terminate hr
    | disconnect => exact h.disconnect hr
    | unsupported name => exact failWith_alike (h.refuse hr _) _
  · simp only [Debugger.handle, command, command']
    exact h.launch strict hr takes now later

/-- **A call has the same result on both sides and leaves the sessions alike.** -/
theorem Alike.call (strict : ∀ a b, L.configured a b → b = a) (h : L.Alike d d') {c c' : Call}
    (hc : L.Calls c c') : L.Results (d.call c) (d'.call c') := by
  cases hc with
  | request now later hr => exact h.handle strict hr now later
  | resume now => exact h.resume strict now

end Likeness

end QuantumDebug
