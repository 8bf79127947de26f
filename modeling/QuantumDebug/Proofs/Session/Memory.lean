import QuantumDebug.Proofs.Session.Parts

/-!
What a session keeps of the places where its program can be stopped. Apart from the requests that
ask for such places no call minds what is kept, and a load forgets all of it. If nothing but a load
changes those places, whatever is kept is what the engine would answer anew.
-/

namespace QuantumDebug

open World

variable {S : Surroundings}

/-! ### Calls that do not mind -/

def Program.recached (p : Program) (k : Table (List Candidate)) : Program :=
  { p with resolver := { p.resolver with cache := k } }

@[simp] lemma Program.recached_self (p : Program) : p.recached p.resolver.cache = p := rfl

lemma Program.load_recached (p : Program) (k : Table (List Candidate)) (w : World S) :
    (p.recached k).load w = p.load w := rfl

lemma runShotsLeft_recached (total left : Nat) (p : Program) (k : Table (List Candidate))
    (v : Visualization) (w : World S) :
    ∃ k', runShotsLeft Program.reload total left (p.recached k) v w =
      let run := runShotsLeft Program.reload total left p v w
      (run.1, run.2.1.recached k', run.2.2) := by
  cases left with
  | zero => exact ⟨k, rfl⟩
  | succ left =>
    unfold runShotsLeft
    rcases runStep .continue [] v w with ⟨outcome, v', w'⟩
    cases outcome with
    | completed =>
      dsimp only
      split
      · exact ⟨k, rfl⟩
      · -- the load makes the two programs the same
        simp only [Program.reload, Program.load_recached]
        exact ⟨_, (congrArg₂ Prod.mk rfl (congrArg₂ Prod.mk (Program.recached_self _).symm rfl))⟩
    | _ => exact ⟨k, rfl⟩

namespace Debugger

def recached (d : Debugger S) (k : Table (List Candidate)) : Debugger S :=
  { d with program := d.program.recached k }

/-- What is kept makes no difference to what is done but to what is kept after it. -/
def Heedless (f : Debugger S → Handled S) : Prop :=
  ∀ d k, ∃ k', f (d.recached k) = ((f d).1, (f d).2.recached k')

namespace Heedless

variable {f g : Debugger S → Handled S}

lemma of_eq (h : ∀ d k, f (d.recached k) = f d) : Heedless f := by
  intro d k
  exact ⟨(f d).2.program.resolver.cache, h d k⟩

lemma andThen (hf : Heedless f) (hg : Heedless g) : Heedless fun d => (f d).andThen g := by
  intro d k
  obtain ⟨k₁, heq⟩ := hf d k
  dsimp only
  rw [heq]
  rcases f d with ⟨answer, d₁⟩
  cases answer with
  | ok u => exact hg d₁ k₁
  | error e => exact ⟨k₁, rfl⟩

lemma done : Heedless (S := S) Debugger.done := fun _ k => ⟨k, rfl⟩

lemma failWith (hf : Heedless f) (e : SessionError) : Heedless fun d => (f d).failWith e :=
  hf.andThen fun _ k => ⟨k, rfl⟩

lemma send (m : Message) : Heedless (S := S) (·.send m) := by
  intro d k
  have hworld : (d.recached k).world = d.world := rfl
  simp only [Debugger.send, hworld]
  rcases d.world.send m with ⟨_ | _, w⟩
  · exact ⟨k, rfl⟩
  · exact ⟨k, rfl⟩

lemma tellAll (events : List Event) : Heedless (S := S) (·.tellAll events) := by
  induction events with
  | nil => exact done
  | cons e events ih => exact (send (.event e)).andThen ih

lemma endSession (message : String) (code : Int) :
    Heedless (S := S) (·.endSession message code) := by
  intro d k
  have hphase : (d.recached k).phase = d.phase := rfl
  simp only [Debugger.endSession, hphase]
  split
  · exact ⟨k, rfl⟩
  · exact tellAll (closingEvents message code) (d.closed code) k

lemma reportAndEnd (e : EngineError) (message : String) (code : Int) :
    Heedless (S := S) fun d => (d.report e).andThen (·.endSession message code) :=
  (send _).andThen (endSession message code)

lemma step (action : StepAction) : Heedless (S := S) (·.step action) := by
  intro d k
  by_cases hphase : d.phase = .running
  · have hphase' : (d.recached k).phase = .running := hphase
    have hrun : runStep action (d.recached k).program.breakpoints.armedIds (d.recached k).view
        (d.recached k).world = runStep action d.program.breakpoints.armedIds d.view d.world := rfl
    simp only [Debugger.step, if_pos hphase, if_pos hphase', hrun]
    rcases runStep action d.program.breakpoints.armedIds d.view d.world with ⟨outcome, v, w⟩
    let stopped : Debugger S := { d with inspector := d.inspector.reset, view := v, world := w }
    cases outcome with
    | failed e => exact reportAndEnd e "ending session due to error" 1 stopped k
    | completed => exact endSession "program completed" 0 stopped k
    | breakpointHit id => exact send (.event (.stopped .breakpoint (some [id]))) stopped k
    | progressed => exact send (.event (.stopped .step none)) stopped k
  · have hphase' : (d.recached k).phase ≠ .running := hphase
    simp only [Debugger.step, if_neg hphase, if_neg hphase']
    exact ⟨k, rfl⟩

lemma runAllShots : Heedless (S := S) Debugger.runAllShots := by
  intro d k
  obtain ⟨k₁, heq⟩ : ∃ k₁, runShots Program.reload (d.recached k).program.config.shotCount
      (d.recached k).program (d.recached k).view (d.recached k).world =
        let run := runShots Program.reload d.program.config.shotCount d.program d.view d.world
        (run.1, run.2.1.recached k₁, run.2.2) :=
    runShotsLeft_recached _ _ d.program k d.view d.world
  simp only [Debugger.runAllShots, heq]
  rcases runShots Program.reload d.program.config.shotCount d.program d.view d.world
    with ⟨how, p, v, w⟩
  let ended : Debugger S :=
    { d with inspector := d.inspector.reset, program := p, view := v, world := w }
  cases how with
  | failed shot e => exact reportAndEnd e "ending session due to error" 1 ended k₁
  | completed => exact endSession "all shots completed" 0 ended k₁
  | incomplete shot => exact endSession "execution didn't run to completion" (-1) ended k₁

lemma run : Heedless (S := S) Debugger.run := by
  intro d k
  have hconfig : (d.recached k).program.config = d.program.config := rfl
  simp only [Debugger.run, hconfig]
  split
  · exact runAllShots d k
  · exact step _ d k

lemma resume (now : Nat) : Heedless (S := S) (·.resume now) := by
  intro d k
  have hpending : (d.recached k).pending = d.pending := rfl
  have hconfigured : (d.recached k).configured = d.configured := rfl
  simp only [Debugger.resume, hpending, hconfigured]
  split
  · exact ⟨k, rfl⟩
  · split
    · rename_i l _ _
      have released : Heedless (S := S) fun d =>
          (d.respond l.request .launch).andThen fun d => (d.advance .running).run :=
        (send _).andThen fun d k => run (d.advance .running) k
      exact released { d with pending := none } k
    · exact ⟨k, rfl⟩

lemma greet (r : Request) (lines columns types : Option Bool) :
    Heedless (S := S) (·.greet r lines columns types) :=
  .of_eq fun _ _ => rfl

lemma launchWith (now later : Nat) (r : Request) (config : RunConfiguration) :
    Heedless (S := S) (·.launchWith now later r config) :=
  .of_eq fun _ _ => rfl

lemma launch (now later : Nat) (r : Request) (noDebug : Option Bool) (data : Option Json) :
    Heedless (S := S) (·.launch now later r noDebug data) := by
  intro d k
  have hphase : (d.recached k).phase = d.phase := rfl
  simp only [Debugger.launch, hphase]
  split
  · exact (send _).failWith _ d k
  · split
    · exact (send _).failWith _ d k
    · exact launchWith now later r _ d k

lemma configurationDone (now : Nat) (r : Request) :
    Heedless (S := S) (·.configurationDone now r) :=
  (send _).andThen fun d k => resume now { d with configured := true } k

lemma stackTrace (r : Request) : Heedless (S := S) (·.stackTrace r) := by
  intro d k
  have hnumber (first : Int) (fs : List EngineFrame) :
      (d.recached k).numberFrames first fs = d.numberFrames first fs := by
    induction fs generalizing first with
    | nil => rfl
    | cons f fs ih =>
      rw [numberFrames, numberFrames, ih]
      rfl
  have hframes (fs : List EngineFrame) : (d.recached k).clientFrames fs = d.clientFrames fs := by
    rw [clientFrames, clientFrames, hnumber]
  have hworld : (d.recached k).world = d.world := rfl
  simp only [Debugger.stackTrace, hframes, hworld]
  exact send _ { d with world := d.world.stackFrames.2 } k

lemma scopes (r : Request) : Heedless (S := S) (·.scopes r) := fun d k =>
  send _ { d with inspector := d.inspector.scopes.2 } k

lemma lookInto (r : Request) (reference : Int) : Heedless (S := S) (·.lookInto r reference) := by
  intro d k
  have hlook : (d.recached k).inspector.lookInto reference (d.recached k).view (d.recached k).world =
      d.inspector.lookInto reference d.view d.world := rfl
  simp only [Debugger.lookInto, hlook, rememberView_eq]
  rcases d.inspector.lookInto reference d.view d.world with ⟨vars, v, w⟩
  let config : RunConfiguration :=
    if v.enabled then { d.program.config with visualizationEnabled := true } else d.program.config
  exact send _ { d with view := v, world := w, program := { d.program with config := config } } k

lemma respondAndStep (r : Request) (body : ResponseBody) (action : StepAction) :
    Heedless (S := S) (·.respondAndStep r body action) :=
  (send _).andThen (step action)

lemma terminate (r : Request) : Heedless (S := S) (·.terminate r) := fun d k =>
  ((send _).andThen (endSession "debug session terminated" 0)) { d with world := d.world.terminate } k

lemma disconnect (r : Request) : Heedless (S := S) (·.disconnect r) := fun d k =>
  (send _).failWith .shutdown
    (({ d with world := d.world.terminate, pending := none } : Debugger S).advance .terminated) k

end Heedless

/-- **No call minds which candidates have been kept** but those that ask for places to stop. -/
theorem call_heedless (c : Call)
    (hsets : ∀ source requested, ¬ c.Asks (.setBreakpoints source requested))
    (hlooks : ∀ source requested, ¬ c.Asks (.breakpointLocations source requested)) :
    Heedless (S := S) (·.call c) := by
  cases c with
  | resume now => exact .resume now
  | request now later r =>
    intro d k
    simp only [call, handle]
    cases command : r.command with
    | initializeSession lines columns types => exact Heedless.greet r lines columns types d k
    | launch noDebug data => exact Heedless.launch now later r noDebug data d k
    | configurationDone => exact Heedless.configurationDone now r d k
    | setBreakpoints source requested =>
      exact absurd (congrArg some command) (hsets source requested)
    | breakpointLocations source requested =>
      exact absurd (congrArg some command) (hlooks source requested)
    | setExceptionBreakpoints => exact Heedless.send _ d k
    | setFunctionBreakpoints => exact Heedless.send _ d k
    | threads => exact Heedless.send _ d k
    | stackTrace => exact Heedless.stackTrace r d k
    | scopes => exact Heedless.scopes r d k
    | «variables» reference => exact Heedless.lookInto r reference d k
    | «continue» => exact Heedless.respondAndStep r _ _ d k
    | next => exact Heedless.respondAndStep r _ _ d k
    | stepIn => exact Heedless.respondAndStep r _ _ d k
    | stepOut => exact Heedless.respondAndStep r _ _ d k
    | terminate => exact Heedless.terminate r d k
    | disconnect => exact Heedless.disconnect r d k
    | unsupported name => exact (Heedless.send _).failWith _ d k

end Debugger

/-! ### Engines -/

/-- What an engine has to answer to every query. -/
structure Answers where
  breakpoints : Url → Except EngineError (List EngineBreakpoint)
  stackFrames : Except EngineError (List EngineFrame)
  localVariables : Except EngineError (List EngineVariable)
  quantumState : Except EngineError (List QuantumEntry)
  circuit : Except EngineError Json

def Engine.answers {σ : Type} (E : Engine σ) (s : σ) : Answers where
  breakpoints source := (E.breakpoints source s).1
  stackFrames := (E.stackFrames s).1
  localVariables := (E.localVariables s).1
  quantumState := (E.quantumState s).1
  circuit := (E.circuit s).1

/-- Whether a question to the engine is a query: it does not ask for anything to be done. -/
def EngineCall.queries : EngineCall → Bool
  | .loadProgram _ => false
  | .eval _ _ => false
  | .terminate => false
  | _ => true

/-- Nothing but a load changes the places where an engine can stop in a source, and a source is known
by the text of its URL. -/
structure Engine.Settled {σ : Type} (E : Engine σ) : Prop where
  kept (s : σ) {call : EngineCall} (h : ∀ config, call ≠ .loadProgram config) (source : Url) :
    (E.answers (E.after call s)).breakpoints source = (E.answers s).breakpoints source
  named (s : σ) {source source' : Url} (h : source'.text = source.text) :
    (E.answers s).breakpoints source' = (E.answers s).breakpoints source

/-! ### What is kept is true -/

namespace Resolver

/-- All candidates that are kept are those behind what the engine would answer now. -/
def Knows {σ : Type} (r : Resolver) (E : Engine σ) (s : σ) : Prop :=
  ∀ source ks, r.cache.get? source.text = some ks →
    ks = candidates r.coords ((E.answers s).breakpoints source)

variable {r : Resolver} {w w' : World S}

lemma Knows.fresh {σ : Type} (coords : Coordinates) (E : Engine σ) (s : σ) :
    (fresh coords).Knows E s := by
  intro source ks hget
  simp [Resolver.fresh] at hget

lemma Knows.clear {σ : Type} (r : Resolver) (E : Engine σ) (s : σ) : r.clear.Knows E s := by
  intro source ks hget
  simp [Resolver.clear] at hget

lemma Knows.play (settled : S.engine.Settled) (knows : r.Knows S.engine w.engine) {e : Effect}
    (h : e.Unloading) : r.Knows S.engine (w.play e).engine := by
  cases e with
  | engine call =>
    intro source ks hget
    have hcall (config : RunConfiguration) : call ≠ .loadProgram config := by
      rintro rfl
      exact h config rfl
    show ks = candidates r.coords
      ((S.engine.answers (S.engine.after call w.engine)).breakpoints source)
    rw [settled.kept _ hcall]
    exact knows source ks hget
  | _ => exact knows

lemma Knows.leads (settled : S.engine.Settled) (knows : r.Knows S.engine w.engine)
    (leads : w.Leads Effect.Unloading w') : r.Knows S.engine w'.engine := by
  obtain ⟨es, hes, rfl⟩ := leads
  induction es generalizing w with
  | nil => exact knows
  | cons e es ih =>
    obtain ⟨he, hes⟩ := List.forall_mem_cons.mp hes
    exact ih (knows.play settled he) hes

/-- Whether candidates are kept or not, they are those of the engine's answer. -/
lemma Knows.load_eq (knows : r.Knows S.engine w.engine) (source : Url) :
    (r.load source w).1 = candidates r.coords ((S.engine.answers w.engine).breakpoints source) := by
  unfold load
  split
  · exact knows _ _ ‹_›
  · rfl

lemma Knows.load (settled : S.engine.Settled) (knows : r.Knows S.engine w.engine) (source : Url) :
    (r.load source w).2.1.Knows S.engine (r.load source w).2.2.engine := by
  unfold Resolver.load
  split
  · exact knows
  · intro source' ks hget
    show ks = candidates r.coords
      ((S.engine.answers (S.engine.after (.breakpoints source) w.engine)).breakpoints source')
    rw [settled.kept _ (by simp)]
    by_cases htext : source'.text = source.text
    · rw [settled.named _ htext]
      have hks : Resolver.candidates r.coords (S.engine.breakpoints source w.engine).1 = ks := by
        simpa [htext, breakpoints_eq] using hget
      exact hks.symm
    · exact knows source' ks (by simpa [htext] using hget)

end Resolver

namespace Program

variable {p : Program} {w : World S}

lemma knows_arm (settled : S.engine.Settled) (knows : p.resolver.Knows S.engine w.engine)
    (source : Url) (requested : List RequestedBreakpoint) :
    (p.arm source requested w).2.1.resolver.Knows S.engine
      (p.arm source requested w).2.2.engine :=
  knows.load settled source

lemma knows_armAll (settled : S.engine.Settled) (knows : p.resolver.Knows S.engine w.engine)
    (waiting : List (String × List RequestedBreakpoint)) :
    (p.armAll w waiting).2.1.resolver.Knows S.engine (p.armAll w waiting).2.2.engine := by
  induction waiting generalizing p w with
  | nil => exact knows
  | cons request rest ih =>
    unfold armAll
    split
    · exact ih knows
    · exact ih (knows_arm settled knows _ _)

lemma knows_load (settled : S.engine.Settled) (p : Program) (w : World S) :
    (p.load w).2.1.resolver.Knows S.engine (p.load w).2.2.engine := by
  rcases h : p.verdict w with e | urls
  · rw [load_error h]
    exact .clear _ _ _
  · rw [load_ok h]
    exact knows_armAll settled (p := p.ready urls) (Resolver.Knows.clear p.resolver _ _) _

end Program

lemma knows_keptByShots (settled : S.engine.Settled) : KeptByShots (S := S) fun s s' =>
    s.1.resolver.Knows S.engine s.2.2.engine → s'.1.resolver.Knows S.engine s'.2.2.engine where
  refl _ := id
  trans h h' := h' ∘ h
  run _ v w knows := knows.leads settled (runStep_unloading .continue [] v w)
  report _ _ _ _ := id
  load p _ w _ := p.knows_load settled w

namespace Debugger

def Remembers (d : Debugger S) : Prop := d.program.resolver.Knows S.engine d.world.engine

lemma remembers_kept (settled : S.engine.Settled) :
    Kept (S := S) fun d d' => d.Remembers → d'.Remembers where
  refl _ := id
  trans h h' := h' ∘ h
  send d m := by
    obtain ⟨ok, -, heq⟩ := d.send_ok m
    rw [heq]
    exact id
  closed _ _ := id
  ran d action knows := knows.leads settled (runStep_unloading _ _ _ _)
  shot d knows := (knows_keptByShots settled).runShotsLeft
    (max d.program.config.shotCount 1) (max d.program.config.shotCount 1) d.program d.view d.world
    knows
  reloaded d _ := d.program.knows_load settled d.world
  noted _ _ _ _ := id

section Calls

variable {d : Debugger S}

lemma Remembers.armed (settled : S.engine.Settled) (knows : d.Remembers)
    (source : Source) (requested : List RequestedBreakpoint) :
    (d.armed source requested).Remembers := by
  rw [Remembers, Debugger.armed, Program.setBreakpoints]
  dsimp only
  split
  · split
    · exact Program.knows_arm settled knows _ _
    · exact knows
  · split <;> exact knows

lemma Remembers.consulted (settled : S.engine.Settled) (knows : d.Remembers) (source : Source)
    (requested : RequestedBreakpoint) : (d.consulted source requested).Remembers := by
  unfold Debugger.consulted
  split
  · split
    · exact knows.load settled _
    · exact knows
  · exact knows

lemma Remembers.begun (settled : S.engine.Settled) (knows : d.Remembers) (c : Command) :
    (d.begun c).Remembers := by
  have asked {e : Effect} (he : e.Unloading) :
      d.program.resolver.Knows S.engine (d.world.play e).engine := knows.play settled he
  cases c with
  | initializeSession lines columns types => exact .fresh _ _ _
  | launch noDebug data =>
    dsimp only [Debugger.begun]
    cases d.accepted? noDebug data with
    | ok config => exact knows
    | error e => exact knows
  | setBreakpoints source requested => exact knows.armed settled source requested
  | breakpointLocations source requested => exact knows.consulted settled source requested
  | stackTrace => exact asked (e := .engine .stackFrames) (by simp [Effect.Unloading])
  | «variables» reference =>
    dsimp only [Debugger.begun]
    rw [Remembers, looked, rememberView_eq]
    exact Resolver.Knows.leads settled knows ((d.inspector.lookInto_leads _ _ _).mono fun _ he =>
      Effect.unloading_of_not_runs he.aftermath.not_runs)
  | terminate => exact asked (e := .engine .terminate) (by simp [Effect.Unloading])
  | disconnect => exact asked (e := .engine .terminate) (by simp [Effect.Unloading])
  | _ => exact knows

/-- A call keeps nothing that is not true. -/
theorem call_remembers (settled : S.engine.Settled) (knows : d.Remembers) (c : Call) :
    (d.call c).2.Remembers := by
  cases c with
  | resume now => exact (remembers_kept settled).resume d now knows
  | request now later r =>
    exact (remembers_kept settled).handle d now later r (knows.begun settled r.command)

lemma Fresh.remembers (h : d.Fresh) : d.Remembers := by
  obtain ⟨w, profile, timeout, -, rfl⟩ := h
  exact .fresh _ _ _

end Calls

end Debugger

end QuantumDebug
