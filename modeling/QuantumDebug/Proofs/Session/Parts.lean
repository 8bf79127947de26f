import QuantumDebug.Proofs.Session.Likeness
import QuantumDebug.Proofs.Session.Programs

/-!
Calls put together from their parts. A call may change something by itself; whatever comes after
that is done in a few parts, which are messages, runs, loads, the end and what is noted of the
launch. What each of these keeps, every call keeps.
-/

namespace QuantumDebug

open World

variable {S : Surroundings}

/-- Done at the beginning of a call: the engine is stopped, a launch is recorded, or nothing but what
is done aside. -/
def Effect.Opening : Effect → Prop
  | .engine .terminate => True
  | .telemetry (.sessionStart _ _) => True
  | e => e.Aside

lemma Effect.Aside.opening {e : Effect} (h : e.Aside) : e.Opening := by
  unfold Effect.Opening
  split
  · trivial
  · trivial
  · exact h

lemma Effect.Opening.not_runs {e : Effect} (h : e.Opening) : ¬ e.Runs := by
  unfold Effect.Opening at h
  split at h
  · exact id
  · exact id
  · exact h.aftermath.not_runs

lemma Effect.Opening.reply? {e : Effect} (h : e.Opening) : e.reply? = none := by
  unfold Effect.Opening at h
  split at h
  · rfl
  · rfl
  · exact h.work.reply?

namespace Debugger

/-! ### Parts -/

def ran (d : Debugger S) (action : StepAction) : Debugger S :=
  let run := runStep action d.program.breakpoints.armedIds d.view d.world
  { d with inspector := d.inspector.reset, view := run.2.1, world := run.2.2 }

def shot (d : Debugger S) : Debugger S :=
  let run := runShots Program.reload d.program.config.shotCount d.program d.view d.world
  { d with
    inspector := d.inspector.reset
    program := run.2.1
    view := run.2.2.1
    world := run.2.2.2 }

def reloaded (d : Debugger S) : Debugger S :=
  let load := d.program.load d.world
  { d with program := load.2.1, world := load.2.2 }

/-- A relation between a session and what becomes of it that holds over every part of a call. -/
structure Kept (R : Debugger S → Debugger S → Prop) : Prop where
  refl (d : Debugger S) : R d d
  trans {d₁ d₂ d₃ : Debugger S} : R d₁ d₂ → R d₂ d₃ → R d₁ d₃
  send (d : Debugger S) (m : Message) : R d (d.send m).2
  closed (d : Debugger S) (code : Int) : R d (d.closed code)
  ran (d : Debugger S) (action : StepAction) : R d (d.ran action)
  shot (d : Debugger S) : R d d.shot
  reloaded (d : Debugger S) : R d d.reloaded
  /-- What is noted of the launch makes no difference. -/
  noted (d : Debugger S) (p : Phase) (configured : Bool) (pending : Option PendingLaunch) :
    R d { d with phase := p, configured := configured, pending := pending }

namespace Kept

variable {R : Debugger S → Debugger S → Prop} {d : Debugger S} {h : Handled S}

lemma andThen (kept : Kept R) {f : Debugger S → Handled S} (first : R d h.2)
    (rest : ∀ d', R d' (f d').2) : R d (h.andThen f).2 := by
  obtain ⟨answer, d'⟩ := h
  cases answer with
  | ok => exact kept.trans first (rest d')
  | error => exact first

lemma failWith (kept : Kept R) (first : R d h.2) (e : SessionError) : R d (h.failWith e).2 :=
  kept.andThen first fun d' => kept.refl d'

lemma tellAll (kept : Kept R) (d : Debugger S) (events : List Event) :
    R d (d.tellAll events).2 := by
  induction events generalizing d with
  | nil => exact kept.refl d
  | cons e events ih => exact kept.andThen (kept.send d (.event e)) ih

lemma endSession (kept : Kept R) (d : Debugger S) (message : String) (code : Int) :
    R d (d.endSession message code).2 := by
  unfold Debugger.endSession
  split
  · exact kept.refl d
  · exact kept.trans (kept.closed d code) (kept.tellAll _ _)

lemma sendAndEnd (kept : Kept R) (d : Debugger S) (m : Message) (message : String) (code : Int) :
    R d ((d.send m).andThen (·.endSession message code)).2 :=
  kept.andThen (kept.send d m) fun d' => kept.endSession d' message code

lemma step (kept : Kept R) (d : Debugger S) (action : StepAction) : R d (d.step action).2 := by
  have runs := kept.ran d action
  unfold Debugger.ran at runs
  unfold Debugger.step
  split
  · rcases hr : runStep action d.program.breakpoints.armedIds d.view d.world with ⟨outcome, v, w⟩
    rw [hr] at runs
    cases outcome with
    | failed e => exact kept.trans runs (kept.sendAndEnd _ _ _ _)
    | completed => exact kept.trans runs (kept.endSession _ _ _)
    | breakpointHit id => exact kept.trans runs (kept.send _ _)
    | progressed => exact kept.trans runs (kept.send _ _)
  · exact kept.refl d

lemma runAllShots (kept : Kept R) (d : Debugger S) : R d d.runAllShots.2 := by
  have runs := kept.shot d
  unfold Debugger.shot at runs
  unfold Debugger.runAllShots
  rcases hr : runShots Program.reload d.program.config.shotCount d.program d.view d.world
    with ⟨how, p, v, w⟩
  rw [hr] at runs
  refine kept.andThen ?_ fun d' => kept.endSession d' _ _
  cases how with
  | failed n e => exact kept.trans runs (kept.send _ _)
  | completed => exact runs
  | incomplete n => exact runs

lemma run (kept : Kept R) (d : Debugger S) : R d d.run.2 := by
  unfold Debugger.run
  split
  · exact kept.runAllShots d
  · exact kept.step d _

lemma resume (kept : Kept R) (d : Debugger S) (now : Nat) : R d (d.resume now).2 := by
  unfold Debugger.resume
  split
  · exact kept.refl d
  · split
    · refine kept.andThen (kept.trans ?_ (kept.send { d with pending := none } _)) fun d' => ?_
      · exact kept.noted d _ _ _
      · exact kept.trans (kept.noted d' _ _ _) (kept.run (d'.advance .running))
    · exact kept.refl d

lemma launchWith (kept : Kept R) (d : Debugger S) (now later : Nat) (r : Request)
    (config : RunConfiguration) :
    R (d.configure config) (d.launchWith now later r config).2 := by
  have loads := kept.reloaded (d.configure config)
  unfold Debugger.reloaded at loads
  unfold Debugger.launchWith
  dsimp only
  rcases hl : (d.configure config).program.load (d.configure config).world with ⟨answer, p, w⟩
  rw [hl] at loads
  cases answer with
  | error e => exact kept.trans loads (kept.sendAndEnd _ _ _ _)
  | ok bs =>
    refine kept.trans loads (kept.andThen (kept.tellAll _ _) fun d' => ?_)
    exact kept.trans (kept.noted d' _ _ _) (kept.resume (d'.await now r) later)

end Kept

/-! ### Calls -/

def looked (d : Debugger S) (reference : Int) : Debugger S :=
  let look := d.inspector.lookInto reference d.view d.world
  ({ d with view := look.2.1, world := look.2.2 } : Debugger S).rememberView

lemma call_lookInto (d : Debugger S) (now later : Nat) {r : Request} {reference : Int}
    (command : r.command = .variables reference) :
    d.call (.request now later r) = (d.looked reference).respond r
      (.variables (d.inspector.lookInto reference d.view d.world).1) := by
  simp only [Debugger.call, Debugger.handle, command]
  rfl

def consulted (d : Debugger S) (source : Source) (requested : RequestedBreakpoint) :
    Debugger S :=
  match d.program.sources.resolveSource source with
  | some url =>
    if d.program.loaded then
      let query := d.program.resolver.query url requested d.world
      { d with program := { d.program with resolver := query.2.1 }, world := query.2.2 }
    else d
  | none => d

lemma consulted_eq (d : Debugger S) (source : Source) (requested : RequestedBreakpoint) :
    d.consulted source requested =
      { d with
        program := { d.program with resolver := (d.consulted source requested).program.resolver }
        world := (d.consulted source requested).world } := by
  unfold consulted
  split
  · split <;> rfl
  · rfl

lemma consulted_surveys (d : Debugger S) (source : Source) (requested : RequestedBreakpoint) :
    d.world.Leads Effect.Surveys (d.consulted source requested).world := by
  unfold consulted
  split
  · split
    · exact d.program.resolver.load_surveys _ d.world
    · exact .refl _
  · exact .refl _

/-- The places in a source where a breakpoint can be set, as far as they are asked for. -/
def locations (d : Debugger S) (source : Source) (requested : RequestedBreakpoint) :
    List BreakpointLocation :=
  match d.program.sources.resolveSource source with
  | some url =>
    if d.program.loaded then
      (d.program.resolver.query url requested d.world).1.map ClientRange.toLocation
    else []
  | none => []

lemma breakpointLocations_eq (d : Debugger S) (r : Request) (source : Source)
    (requested : RequestedBreakpoint) :
    d.breakpointLocations r source requested =
      (d.consulted source requested).respond r
        (.breakpointLocations (d.locations source requested)) := by
  unfold breakpointLocations consulted locations
  cases d.program.sources.resolveSource source with
  | none => rfl
  | some url =>
    dsimp only
    split <;> rfl

lemma call_breakpointLocations (d : Debugger S) (now later : Nat) {r : Request} {source : Source}
    {requested : RequestedBreakpoint}
    (command : r.command = .breakpointLocations source requested) :
    d.call (.request now later r) = (d.consulted source requested).respond r
      (.breakpointLocations (d.locations source requested)) := by
  simp only [Debugger.call, Debugger.handle, command]
  exact d.breakpointLocations_eq r source requested

/-- The session with what a request changes by itself, before anything is sent, run or loaded. -/
def begun (d : Debugger S) : Command → Debugger S
  | .initializeSession lines columns types => d.greeted lines columns types
  | .launch noDebug data =>
    match d.accepted? noDebug data with
    | .ok config => d.configure config
    | .error _ => d
  | .setBreakpoints source requested => d.armed source requested
  | .breakpointLocations source requested => d.consulted source requested
  | .stackTrace => { d with world := d.world.stackFrames.2 }
  | .scopes => { d with inspector := d.inspector.scopes.2 }
  | .variables reference => d.looked reference
  | .terminate => { d with world := d.world.terminate }
  | .disconnect => { d with world := d.world.terminate }
  | _ => d

lemma begun_leads (d : Debugger S) (c : Command) :
    d.world.Leads Effect.Opening (d.begun c).world := by
  cases c with
  | launch noDebug data =>
    dsimp only [begun]
    cases d.accepted? noDebug data with
    | ok config => exact .play (e := taken config) trivial _
    | error e => exact .refl _
  | setBreakpoints source requested =>
    exact (d.armed_surveys source requested).mono fun _ he => he.aside.opening
  | breakpointLocations source requested =>
    exact (d.consulted_surveys source requested).mono fun _ he => he.aside.opening
  | stackTrace => exact .play (e := .engine .stackFrames) trivial _
  | «variables» reference =>
    dsimp only [begun]
    rw [looked, rememberView_eq]
    exact (d.inspector.lookInto_leads _ _ _).mono fun _ => Effect.Aside.opening
  | terminate => exact .play (e := .engine .terminate) trivial _
  | disconnect => exact .play (e := .engine .terminate) trivial _
  | _ => exact .refl _

/-- A request that only looks around is done once it has begun, and is answered in its own kind. -/
lemma handle_looks (d : Debugger S) (now later : Nat) {r : Request}
    (looks : r.command.looks = true) :
    ∃ body, d.handle now r later = (d.begun r.command).respond r body ∧
      ∀ scopes, body = .scopes scopes → r.command = .scopes := by
  unfold Debugger.handle
  cases command : r.command with
  | setBreakpoints source requested => exact ⟨_, d.setBreakpoints_eq r source requested, by simp⟩
  | breakpointLocations source requested =>
    exact ⟨_, d.breakpointLocations_eq r source requested, by simp⟩
  | setExceptionBreakpoints => exact ⟨_, rfl, by simp⟩
  | setFunctionBreakpoints => exact ⟨_, rfl, by simp⟩
  | threads => exact ⟨_, rfl, by simp⟩
  | stackTrace => exact ⟨_, rfl, by simp⟩
  | scopes => exact ⟨_, rfl, fun _ _ => rfl⟩
  | «variables» reference => exact ⟨_, rfl, by simp⟩
  | _ => simp [command, Command.looks] at looks

/-- What every part keeps, a request keeps from its beginning on. -/
theorem Kept.handle {R : Debugger S → Debugger S → Prop} (kept : Kept R) (d : Debugger S)
    (now later : Nat) (r : Request) : R (d.begun r.command) (d.handle now r later).2 := by
  by_cases looks : r.command.looks = true
  · obtain ⟨body, heq, -⟩ := d.handle_looks now later looks
    rw [heq]
    exact kept.send _ _
  have steps (body : ResponseBody) (action : StepAction) :
      R d (d.respondAndStep r body action).2 :=
    kept.andThen (kept.send d _) fun d' => kept.step d' action
  unfold Debugger.handle
  cases command : r.command with
  | initializeSession lines columns types =>
    exact kept.andThen (kept.send (d.greeted lines columns types) _) fun d' => kept.send d' _
  | launch noDebug data =>
    dsimp only [begun]
    rw [Debugger.launch, accepted?]
    by_cases late : .awaitingConfiguration ≤ d.phase
    · rw [if_pos late, if_pos late]
      exact kept.failWith (kept.send d _) _
    · rw [if_neg late, if_neg late]
      cases launchConfiguration noDebug data with
      | error e => exact kept.failWith (kept.send d _) _
      | ok config => exact kept.launchWith d now later r config
  | configurationDone =>
    refine kept.andThen (kept.send d _) fun d' => ?_
    exact kept.trans (kept.noted d' _ _ _) (kept.resume { d' with configured := true } now)
  | «continue» => exact steps _ _
  | next => exact steps _ _
  | stepIn => exact steps _ _
  | stepOut => exact steps _ _
  | terminate => exact kept.sendAndEnd { d with world := d.world.terminate } _ _ _
  | disconnect =>
    have stops := kept.noted { d with world := d.world.terminate } (d.phase.advance .terminated)
      d.configured none
    exact kept.failWith (kept.trans stops (kept.send _ _)) _
  | unsupported name => exact kept.failWith (kept.send d _) _
  | _ => simp [command, Command.looks] at looks

end Debugger

end QuantumDebug
