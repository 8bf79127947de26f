import QuantumDebug.Proofs.Session.Shots

/-!
What follows a run of the program in a session of an attentive client: first what the program wrote,
then one update of the panel if it is to be kept in step, and only then word of how the run ended.
It is the same for a step that the client asks for, for the first step of a launch and for every
shot. The panel and the client are told of a failure in the same words.
-/

namespace QuantumDebug

open World

variable {S : Surroundings}

def Effect.Calm (e : Effect) : Prop := ¬ e.Evals ∧ ¬ e.Stops

lemma Effect.Aside.calm {e : Effect} (h : e.Aside) : e.Calm :=
  ⟨fun hevals => h.aftermath.not_runs hevals.runs, h.work.not_stops⟩

def World.texts (w : World S) (action : StepAction) (armed : List Int) : List Effect :=
  (S.engine.eval action armed w.engine).1.1.map fun text =>
    .message (.event (.output .stdout text)) true

namespace StepOutcome

/-- How the panel is brought up to date after a run that ends so, if it is to be kept in step: the
engine is asked for the circuit once, and one update goes out, which names what went wrong. -/
inductive Pictured (outcome : StepOutcome) : Bool → List Effect → Prop where
  | shown {u : PanelUpdate} (accepted : Bool)
      (failure : u.failure = outcome.failure.map EngineError.render) :
      Pictured outcome true [.engine .circuit, .panel u accepted]
  | hidden : Pictured outcome false []

/-- What the client is told of a run that ends so, with the debugger and without. -/
inductive Told (config : RunConfiguration) : StepOutcome → List Effect → Prop where
  | hit (debug : config.noDebug = false) (id : Int) :
      Told config (.breakpointHit id) [.message (.event (.stopped .breakpoint (some [id]))) true]
  | progressed (debug : config.noDebug = false) :
      Told config .progressed [.message (.event (.stopped .step none)) true]
  | completed (debug : config.noDebug = false) :
      Told config .completed (Debugger.closing "program completed" 0)
  | failed (e : EngineError) :
      Told config (.failed e)
        (.message (Debugger.fault e) true :: Debugger.closing "ending session due to error" 1)
  | shot (noDebug : config.noDebug = true) (shot : Nat) :
      Told config .completed [shotReport config.shotCount shot]
  | cut (noDebug : config.noDebug = true) {outcome : StepOutcome}
      (stopped : outcome.stoppedEvent? ≠ none) :
      Told config outcome (Debugger.closing "execution didn't run to completion" (-1))

end StepOutcome

/-- A run after which all that the program wrote has been passed on. -/
def World.written (w : World S) (action : StepAction) (armed : List Int) : World S :=
  (w.play (.engine (.eval action armed))).playAll (w.texts action armed)

/-- After every run among effects that begin in a world, all that the program wrote is passed on,
then the panel is brought up to date if it is asked for or is showing by then, and then the client
is told. -/
def Rendered (config : RunConfiguration) (asked : Bool) (w : World S) (es : List Effect) : Prop :=
  ∀ pre action armed post, es = pre ++ .engine (.eval action armed) :: post →
    let before := w.playAll pre
    let outcome := before.outcome action armed
    ∃ pictures told rest,
      post = before.texts action armed ++ pictures ++ told ++ rest ∧
      outcome.Pictured (asked || S.panel.isOpen (before.written action armed).panel) pictures ∧
      outcome.Told config told

section Rendered

variable {config : RunConfiguration} {asked : Bool} {w : World S} {es fs : List Effect}

lemma Rendered.of_quiet (h : ∀ e ∈ es, ¬ e.Evals) : Rendered config asked w es := by
  rintro pre action armed post rfl
  exact absurd trivial (h (.engine (.eval action armed)) (by simp))

lemma Rendered.append (hes : Rendered config asked w es)
    (hfs : Rendered config asked (w.playAll es) fs) : Rendered config asked w (es ++ fs) := by
  intro pre action armed post heq
  rcases List.append_eq_append_iff.mp heq with ⟨mid, rfl, hfs'⟩ | ⟨mid, rfl, hmid⟩
  · have later := hfs mid action armed post hfs'
    rwa [← playAll_append] at later
  · cases mid with
    | nil =>
      have later := hfs [] action armed post (by simpa using hmid.symm)
      simpa using later
    | cons e mid =>
      obtain ⟨rfl, rfl⟩ : .engine (.eval action armed) = e ∧ post = mid ++ fs := by
        simpa using hmid
      obtain ⟨pictures, told, rest, rfl, pictured, htold⟩ := hes pre action armed mid rfl
      exact ⟨pictures, told, rest ++ fs, by simp, pictured, htold⟩

lemma texts_quiet (w : World S) (action : StepAction) (armed : List Int) :
    ∀ e ∈ w.texts action armed, ¬ e.Evals := by
  simp [World.texts]

lemma StepOutcome.Pictured.quiet {outcome : StepOutcome} {shown : Bool}
    (h : outcome.Pictured shown es) : ∀ e ∈ es, ¬ e.Evals := by
  cases h <;> simp

lemma closing_quiet (message : String) (code : Int) :
    ∀ e ∈ Debugger.closing message code, ¬ e.Evals := by
  simp [Debugger.closing]

lemma StepOutcome.Told.quiet {outcome : StepOutcome} (h : outcome.Told config es) :
    ∀ e ∈ es, ¬ e.Evals := by
  cases h with
  | hit => simp
  | progressed => simp
  | completed => exact closing_quiet _ _
  | failed => exact List.forall_mem_cons.mpr ⟨id, closing_quiet _ _⟩
  | shot => simp [shotReport]
  | cut => exact closing_quiet _ _

lemma Rendered.run {action : StepAction} {armed : List Int} {pictures told : List Effect}
    (pictured : (w.outcome action armed).Pictured
      (asked || S.panel.isOpen (w.written action armed).panel) pictures)
    (htold : (w.outcome action armed).Told config told) :
    Rendered config asked w
      (.engine (.eval action armed) :: (w.texts action armed ++ pictures) ++ told) := by
  intro pre action' armed' post heq
  rcases pre with _ | ⟨e, pre⟩
  · obtain ⟨⟨rfl, rfl⟩, rfl⟩ : (action = action' ∧ armed = armed') ∧
        w.texts action armed ++ pictures ++ told = post := by simpa using heq
    exact ⟨pictures, told, [], by simp, pictured, htold⟩
  · -- nothing else among these effects is a run
    have hmem : .engine (.eval action' armed') ∈ w.texts action armed ++ pictures ++ told := by
      have htail : w.texts action armed ++ pictures ++ told =
          pre ++ .engine (.eval action' armed') :: post := (List.cons.inj heq).2
      rw [htail]
      simp
    rcases List.mem_append.mp hmem with hmem | hmem
    · rcases List.mem_append.mp hmem with hmem | hmem
      · exact absurd trivial (texts_quiet w action armed _ hmem)
      · exact absurd trivial (pictured.quiet _ hmem)
    · exact absurd trivial (htold.quiet _ hmem)

end Rendered

/-! ### One run -/

lemma forward_eq (hA : S.Attentive) (w : World S) (texts : List String) :
    w.forward texts =
      w.playAll (texts.map fun text => .message (.event (.output .stdout text)) true) := by
  induction texts generalizing w with
  | nil => rfl
  | cons text texts ih =>
    show (w.output .stdout text).forward texts = _
    rw [ih, output_heard hA]
    rfl

lemma Visualization.update_pictured (v : Visualization) (outcome : StepOutcome) (w : World S) :
    ∃ pictures, outcome.Pictured (v.enabled || S.panel.isOpen w.panel) pictures ∧
      (v.update outcome.failure w).2 = w.playAll pictures ∧
      (v.update outcome.failure w).1.enabled = v.enabled := by
  unfold update
  by_cases hwanted : v.wanted w = true
  · rw [if_pos hwanted, show (v.enabled || S.panel.isOpen w.panel) = true from hwanted]
    exact ⟨_, .shown _ rfl, rfl, rfl⟩
  · rw [if_neg hwanted,
      show (v.enabled || S.panel.isOpen w.panel) = false from Bool.eq_false_iff.mpr hwanted]
    exact ⟨[], .hidden, rfl, rfl⟩

/-- A run passes on what the program wrote and brings the panel up to date, and so word of how it
ended comes last. -/
lemma runStep_rendered (hA : S.Attentive) (config : RunConfiguration) (action : StepAction)
    (armed : List Int) (v : Visualization) (w : World S) :
    ∃ run, (runStep action armed v w).2.2 = w.playAll run ∧
      (runStep action armed v w).2.1.enabled = v.enabled ∧
      ∀ told, (runStep action armed v w).1.Told config told →
        Rendered config v.enabled w (run ++ told) := by
  have hforward : (w.play (.engine (.eval action armed))).forward
      (S.engine.eval action armed w.engine).1.1 = w.written action armed := forward_eq hA _ _
  obtain ⟨pictures, pictured, hworld, henabled⟩ :=
    v.update_pictured (w.outcome action armed) (w.written action armed)
  refine ⟨.engine (.eval action armed) :: (w.texts action armed ++ pictures), ?_, ?_, ?_⟩
  · simp only [runStep, eval_eq, hforward]
    exact hworld.trans (by rw [World.written, playAll_cons, playAll_append])
  · simp only [runStep, eval_eq, hforward]
    exact henabled
  · rw [runStep_outcome]
    exact fun told => Rendered.run pictured

/-! ### Shots -/

lemma ShotsOutcome.farewell_quiet (how : ShotsOutcome) : ∀ e ∈ how.farewell, ¬ e.Evals := by
  cases how with
  | completed => exact closing_quiet _ _
  | incomplete => exact closing_quiet _ _
  | failed => exact List.forall_mem_cons.mpr ⟨id, closing_quiet _ _⟩

lemma World.Passes.quiet {w w' : World S} {marks : List Effect} {answers : List Answer}
    (h : w.Passes marks answers w') (hmarks : ∀ e ∈ marks, ¬ e.Evals) :
    w.Leads (fun e => ¬ e.Evals) w' := by
  obtain ⟨es, rfl, rfl, -⟩ := h
  refine ⟨es, fun e he hevals => hmarks e (List.mem_filter.mpr ⟨he, ?_⟩) hevals, rfl⟩
  unfold Effect.Evals at hevals
  split at hevals
  · rfl
  · exact hevals.elim

/-- Shots that are rendered one after another, with what the client is told when they have ended. -/
def ShotsRendered (config : RunConfiguration) (asked : Bool) (w : World S)
    (ending : ShotsOutcome × Program × Visualization × World S) : Prop :=
  ∃ es, ending.2.2.2 = w.playAll es ∧ Rendered config asked w (es ++ ending.1.farewell)

section ShotsRendered

variable {config : RunConfiguration} {asked : Bool} {w : World S}
  {ending : ShotsOutcome × Program × Visualization × World S}

lemma ShotsRendered.over (h : ending.2.2.2 = w) : ShotsRendered config asked w ending :=
  ⟨[], h, .of_quiet ending.1.farewell_quiet⟩

lemma ShotsRendered.after {es : List Effect} (hes : Rendered config asked w es)
    (later : ShotsRendered config asked (w.playAll es) ending) :
    ShotsRendered config asked w ending := by
  obtain ⟨fs, hworld, hfs⟩ := later
  refine ⟨es ++ fs, hworld.trans (playAll_append _ _ _).symm, ?_⟩
  rw [List.append_assoc]
  exact hes.append hfs

end ShotsRendered

lemma runShotsLeft_rendered (hA : S.Attentive) {config : RunConfiguration}
    (noDebug : config.noDebug = true) (left : Nat) (p : Program) (v : Visualization)
    (w : World S) :
    ShotsRendered config v.enabled w
      (runShotsLeft Program.reload config.shotCount left p v w) := by
  induction left generalizing p v w with
  | zero => exact .over rfl
  | succ left ih =>
    obtain ⟨run, hworld, henabled, told⟩ := runStep_rendered hA config .continue [] v w
    rw [runShotsLeft]
    generalize runStep .continue [] v w = ran at hworld henabled told ⊢
    obtain ⟨outcome, v', w₁⟩ := ran
    dsimp only at hworld henabled told
    subst hworld
    cases outcome with
    | failed e => exact ⟨run, rfl, told _ (.failed e)⟩
    | breakpointHit id =>
      exact ⟨run, rfl, told _ (.cut noDebug (by simp [StepOutcome.stoppedEvent?]))⟩
    | progressed => exact ⟨run, rfl, told _ (.cut noDebug (by simp [StepOutcome.stoppedEvent?]))⟩
    | completed =>
      let shot := config.shotCount - left
      have hreported : (w.playAll run).output .console (finishedShot shot config.shotCount) =
          w.playAll (run ++ [shotReport config.shotCount shot]) := by
        rw [output_heard hA, playAll_append]
        rfl
      refine .after (told _ (.shot noDebug shot)) ?_
      dsimp only
      rw [hreported]
      generalize w.playAll (run ++ [shotReport config.shotCount shot]) = w'
      split
      · exact .over rfl
      · -- nothing is run while the program is loaded anew
        obtain ⟨ls, hls, hload⟩ := (load_passes p w').quiet (by simp)
        refine .after (.of_quiet hls) ?_
        simp only [Program.reload]
        generalize p.load w' = loaded at hload ⊢
        obtain ⟨answer, q, w''⟩ := loaded
        dsimp only at hload
        subst hload
        cases answer with
        | error e => exact .over rfl
        | ok bs => exact henabled ▸ ih q v' _

namespace Debugger

variable {d : Debugger S}

/-! ### Steps and shots of a session -/

lemma step_rendered (hA : S.Attentive) (debug : d.program.config.noDebug = false)
    (action : StepAction) :
    ∃ es, (d.step action).2.world = d.world.playAll es ∧
      Rendered d.program.config d.view.enabled d.world es := by
  by_cases hrun : d.phase = .running
  · obtain ⟨run, hworld, -, told⟩ := runStep_rendered hA d.program.config action
      d.program.breakpoints.armedIds d.view d.world
    rw [step, if_pos hrun]
    generalize runStep action d.program.breakpoints.armedIds d.view d.world = ran at hworld told ⊢
    obtain ⟨outcome, v, w⟩ := ran
    dsimp only at hworld told ⊢
    subst hworld
    cases outcome with
    | breakpointHit id =>
      refine ⟨_, ?_, told _ (.hit debug id)⟩
      dsimp only
      rw [tell, send_heard hA, playAll_append]
      rfl
    | progressed =>
      refine ⟨_, ?_, told _ (.progressed debug)⟩
      dsimp only
      rw [tell, send_heard hA, playAll_append]
      rfl
    | completed =>
      refine ⟨_, ?_, told _ (.completed debug)⟩
      dsimp only
      rw [(endSession_world hA (by simp [hrun]) _ _).1, playAll_append]
    | failed e =>
      refine ⟨_, ?_, told _ (.failed e)⟩
      dsimp only
      rw [report, tell, send_heard hA, andThen_true,
        (endSession_world hA (by simp [hrun]) _ _).1, playAll_append]
      rfl
  · rw [step, if_neg hrun]
    exact ⟨[], rfl, .of_quiet (by simp)⟩

lemma runAllShots_rendered (hA : S.Attentive) (hphase : d.phase ≠ .terminated)
    (hshots : 1 ≤ d.program.config.shotCount) (noDebug : d.program.config.noDebug = true) :
    ∃ es, d.runAllShots.2.world = d.world.playAll es ∧
      Rendered d.program.config d.view.enabled d.world es := by
  obtain ⟨es, hworld, rendered⟩ := runShotsLeft_rendered hA noDebug
    d.program.config.shotCount d.program d.view d.world
  rw [runAllShots, runShots, Nat.max_eq_left hshots]
  rcases hr : runShotsLeft Program.reload d.program.config.shotCount d.program.config.shotCount
    d.program d.view d.world with ⟨how, p, v, w⟩
  rw [hr] at hworld rendered
  dsimp only at hworld rendered ⊢
  refine ⟨_, ?_, rendered⟩
  rw [playAll_append, ← hworld]
  exact (farewell_world (d := { d with
    inspector := d.inspector.reset, program := p, view := v, world := w }) hA hphase how).1

/-! ### Calls -/

section Calm

variable {message : String} {code : Int} {m : Message} {now later : Nat} {r : Request}
  {es : List Effect} {h : Handled S}

lemma Ends.calm (ends : Ends message code d es h) : ∀ e ∈ es, e.Calm := by
  cases ends with
  | past => simp
  | closes _ sent =>
    refine List.forall_mem_cons.mpr ⟨⟨id, id⟩, sent.forall_mem fun m hm ok => ?_⟩
    simp only [closingEvents, List.map_cons, List.map_nil, List.mem_cons, List.not_mem_nil,
      or_false] at hm
    rcases hm with rfl | rfl | rfl <;> exact ⟨id, id⟩

lemma EndsAfter.calm (ends : EndsAfter m message code d es h)
    (hm : ∀ ok, (Effect.message m ok).Calm) : ∀ e ∈ es, e.Calm := by
  cases ends with
  | heard ends => exact List.forall_mem_cons.mpr ⟨hm true, ends.calm⟩
  | unheard => exact List.forall_mem_singleton.mpr (hm false)

lemma Handles.calm (hA : S.Attentive) (handles : Handles now later r d es h)
    (hgoes : d.goes? (.request now later r) = none)
    (hstep : r.command.step? = none ∨ d.phase ≠ .running) : ∀ e ∈ es, e.Calm := by
  have answer (reply : Reply) (ok : Bool) : (r.answer reply ok).Calm := ⟨id, id⟩
  cases handles with
  | looks _ aside =>
    exact List.forall_mem_append.mpr
      ⟨fun e he => (aside e he).calm, List.forall_mem_singleton.mpr (answer _ _)⟩
  | greets _ sent =>
    refine sent.forall_mem fun m hm ok => ?_
    simp only [List.mem_cons, List.not_mem_nil, or_false] at hm
    rcases hm with rfl | rfl <;> exact ⟨id, id⟩
  | refuses => exact List.forall_mem_singleton.mpr (answer _ _)
  | unheard _ hS => exact absurd hA hS
  | configures command resumes =>
    rw [goes?, if_pos command, Option.map_eq_none_iff] at hgoes
    obtain ⟨rfl, -⟩ := resumes.idle ((due_of_configured rfl).trans hgoes)
    exact List.forall_mem_singleton.mpr (answer _ _)
  | steps command steps =>
    rcases steps.idle_or_running with ⟨rfl, -⟩ | hrun
    · exact List.forall_mem_singleton.mpr (answer _ _)
    · rcases hstep with hnone | hidle
      · simp [hnone] at command
      · exact absurd hrun hidle
  | loadFails _ _ _ _ _ ends =>
    exact List.forall_mem_cons.mpr ⟨⟨id, id⟩, List.forall_mem_cons.mpr
      ⟨⟨id, id⟩, ends.calm fun _ => ⟨id, id⟩⟩⟩
  | loses _ _ _ _ _ hS => exact absurd hA hS
  | launches command accepted answered _ _ aside resumes =>
    rw [goes?_of_loads (loads_eq_true command accepted answered)] at hgoes
    have hwait : ¬ (d.configured = true ∨ now + d.timeout ≤ later) := by simpa using hgoes
    obtain ⟨rfl, -⟩ := resumes.idle (by simp [due_await, hwait])
    rw [List.append_nil]
    refine List.forall_mem_cons.mpr ⟨⟨id, id⟩, List.forall_mem_cons.mpr ⟨⟨id, id⟩, ?_⟩⟩
    exact List.forall_mem_append.mpr ⟨fun e he => (aside e he).calm, by simp [Effect.Calm]⟩
  | terminates _ ends => exact List.forall_mem_cons.mpr ⟨⟨id, id⟩, ends.calm fun _ => ⟨id, id⟩⟩
  | disconnects =>
    exact List.forall_mem_cons.mpr ⟨⟨id, id⟩, List.forall_mem_singleton.mpr (answer _ _)⟩

lemma Shoots.unstopped (shoots : Shoots d es h) : ∀ e ∈ es, ¬ e.Stops := by
  cases shoots with
  | finishes work _ _ ends =>
    exact List.forall_mem_append.mpr
      ⟨fun e he => (work e he).not_stops, fun e he => (ends.calm e he).2⟩
  | fails work _ ends =>
    exact List.forall_mem_append.mpr ⟨fun e he => (work e he).not_stops,
      fun e he => (ends.calm (fun _ => ⟨id, id⟩) e he).2⟩

lemma Shoots.terminated (hA : S.Attentive) (shoots : Shoots d es h) : h.2.phase = .terminated := by
  cases shoots with
  | finishes _ _ _ ends => exact ends.terminated
  | fails _ _ ends => exact ends.terminated hA

end Calm

/-- A call comes to a session in which the program is running, and nothing is run before. -/
structure Reaches (d : Debugger S) (c : Call) (d' : Debugger S) (pre : List Effect) : Prop where
  world : d'.world = d.world.playAll pre
  calm : ∀ e ∈ pre, e.Calm
  running : d'.phase = .running
  view : d'.view.enabled = d.shows c

/-- What a call runs: nothing, one step with the debugger, or all shots without it. -/
inductive Drives (d : Debugger S) (c : Call) : Prop where
  | nothing (calm : ∀ e ∈ d.effects c, e.Calm)
      (idle : (d.call c).2.phase = .running → d.phase = .running)
  | step {d' : Debugger S} {pre : List Effect} {action : StepAction} (reaches : Reaches d c d' pre)
      (debug : d'.program.config.noDebug = false) (runs : d.call c = d'.step action)
  | shots {d' : Debugger S} {pre : List Effect} (reaches : Reaches d c d' pre)
      (noDebug : d'.program.config.noDebug = true) (runs : d.call c = d'.runAllShots)

lemma Going.reaches {c : Call} {d' : Debugger S} {l : PendingLaunch} {pre : List Effect}
    (going : Going d c d' l pre) : Reaches d c (d'.released l) (pre ++ [l.ack true]) where
  world := by
    rw [playAll_append, ← going.world]
    rfl
  calm := List.forall_mem_append.mpr ⟨fun e he => ⟨going.quiet e he, going.unstopped e he⟩,
    List.forall_mem_singleton.mpr ⟨id, id⟩⟩
  running := by
    show d'.phase.advance .running = .running
    rw [going.phase]
    rfl
  view := going.view

/-- A call runs nothing, a step or the shots. -/
theorem call_drives (hA : S.Attentive) (hd : Patient d)
    (debug : d.phase = .running → d.program.config.noDebug = false) (c : Call) : Drives d c := by
  rcases hgoes : d.goes? c with _ | r
  · have idle := call_setGoing hA d c
    rw [SetGoing, hgoes] at idle
    have moves := d.call_moves c
    cases c with
    | resume now =>
      rw [goes?, Option.map_eq_none_iff] at hgoes
      refine .nothing ?_ idle
      have heffects : d.effects (.resume now) = [] :=
        effects_of_world (by rw [resume_eq_done hgoes]; rfl)
      simp [heffects]
    | request now later r =>
      rcases hstep : r.command.step? with _ | ⟨body, action⟩
      · cases moves with
        | request handles => exact .nothing (handles.calm hA hgoes (.inl hstep)) idle
      by_cases hrun : d.phase = .running
      · have reaches : Reaches d (.request now later r) (d.play [r.answer (.success body) true])
            [r.answer (.success body) true] :=
          ⟨rfl, List.forall_mem_singleton.mpr ⟨id, id⟩, hrun, (shows_of_takes?_none
            (takes?_of_command (Command.neutral_of_step hstep).launch)).symm⟩
        refine .step reaches (debug hrun) (?_ : _ = Debugger.step _ action)
        rw [call, handle_steps hstep, respondAndStep, respond, send_heard hA, andThen_true]
        rfl
      · cases moves with
        | request handles => exact .nothing (handles.calm hA hgoes (.inr hrun)) idle
  · obtain ⟨d', l, pre, -, going⟩ := call_going hA hd hgoes
    rcases hnoDebug : (d'.released l).program.config.noDebug with _ | _
    · exact .step going.reaches hnoDebug (going.runs.trans (if_neg (by simp [hnoDebug])))
    · exact .shots going.reaches hnoDebug (going.runs.trans (if_pos hnoDebug))

/-! ### Sessions -/

/-- A program that is running is debugged, and only of such a program the client has heard that it
has stopped. -/
structure Supervised (d : Debugger S) : Prop where
  running : d.phase = .running → d.program.config.noDebug = false
  stopped : ∀ e ∈ d.world.trace, e.Stops →
    .awaitingConfiguration ≤ d.phase ∧ d.program.config.noDebug = false

lemma call_noDebug (hlate : .awaitingConfiguration ≤ d.phase) (c : Call) :
    (d.call c).2.program.config.noDebug = d.program.config.noDebug := by
  have hconfig := d.call_config c
  rw [takes?_of_late hlate] at hconfig
  exact hconfig.noDebug

lemma call_supervised (hA : S.Attentive) (hd : Patient d) (h : Supervised d) (c : Call) :
    Supervised (d.call c).2 := by
  -- what the client has heard before stays true
  have before (e : Effect) (he : e ∈ d.world.trace) (hstops : e.Stops) :
      .awaitingConfiguration ≤ (d.call c).2.phase ∧
        (d.call c).2.program.config.noDebug = false := by
    obtain ⟨hlate, debug⟩ := h.stopped e he hstops
    exact ⟨Phase.le_trans hlate (d.phase_le_call c), (call_noDebug hlate c).trans debug⟩
  have htrace := d.trace_call c
  cases call_drives hA hd h.running c with
  | nothing calm idle =>
    refine ⟨fun hrun => ?_, fun e he hstops => ?_⟩
    · have hbefore := idle hrun
      rw [call_noDebug (hbefore ▸ by decide) c]
      exact h.running hbefore
    · rcases List.mem_append.mp (htrace ▸ he) with he | he
      · exact before e he hstops
      · exact absurd hstops (calm e he).2
  | @step d' pre action reaches debug runs =>
    obtain ⟨es, steps⟩ := d'.step_steps action
    have debug' : (d.call c).2.program.config.noDebug = false := by
      rw [runs, steps.program]
      exact debug
    refine ⟨fun _ => debug', fun _ _ _ => ⟨?_, debug'⟩⟩
    have hphase := steps.onward.phase
    rw [← runs, reaches.running] at hphase
    exact Phase.le_trans (by decide) hphase
  | @shots d' pre reaches noDebug runs =>
    obtain ⟨es, shoots⟩ := d'.runAllShots_shoots
    have hover : (d.call c).2.phase = .terminated := runs ▸ shoots.terminated hA
    have heffects : d.effects c = pre ++ es := by
      refine effects_of_world ?_
      rw [runs, shoots.world, reaches.world, playAll_append]
    refine ⟨fun hrun => absurd (hover.symm.trans hrun) (by decide), fun e he hstops => ?_⟩
    rw [htrace, heffects] at he
    rcases List.mem_append.mp he with he | he
    · exact before e he hstops
    · rcases List.mem_append.mp he with he | he
      · exact absurd hstops (reaches.calm e he).2
      · exact absurd hstops (shoots.unstopped e he)

lemma calls_supervised (hA : S.Attentive) (h : d.Fresh) (cs : List Call) :
    Supervised (d.calls cs) := by
  induction cs using List.reverseRecOn with
  | nil => exact ⟨fun hrun => by simp [h.phase] at hrun, by simp [h.trace]⟩
  | append_singleton cs c ih =>
    rw [calls_snoc]
    exact call_supervised hA (calls_patient h cs) ih c

/-- What a call of a session makes known of the runs of the program, and in which order. -/
structure RendersFirst (d : Debugger S) (c : Call) : Prop where
  /-- After every run of the call what the program wrote is passed on, the panel is brought up to
  date if circuits are to be shown or it is open, and then the client is told how the run ended. -/
  rendered : Rendered (d.call c).2.program.config (d.shows c) d.world (d.effects c)
  /-- Without the debugger the client never hears that the program has stopped. -/
  unstopped : (d.call c).2.program.config.noDebug = true →
    ∀ e ∈ (d.call c).2.world.trace, ¬ e.Stops

/-- **The client is told how a run ended only after the panel is up to date**, in every session of
an attentive client. -/
theorem calls_rendersFirst (hA : S.Attentive) (h : d.Fresh) (cs : List Call) (c : Call) :
    RendersFirst (d.calls cs) c where
  rendered := by
    have hshots := calls_shots h (cs ++ [c])
    rw [calls_snoc] at hshots
    generalize hcs : d.calls cs = d₀ at hshots ⊢
    have supervised := hcs ▸ calls_supervised hA h cs
    have quiet {es : List Effect} (hes : ∀ e ∈ es, e.Calm) : ∀ e ∈ es, ¬ e.Evals :=
      fun e he => (hes e he).1
    cases call_drives hA (hcs ▸ calls_patient h cs) supervised.running c with
    | nothing calm => exact .of_quiet (quiet calm)
    | @step d' pre action reaches debug runs =>
      obtain ⟨es, hworld, rendered⟩ := step_rendered hA debug action
      have heffects : d₀.effects c = pre ++ es :=
        effects_of_world (by rw [runs, hworld, reaches.world, playAll_append])
      rw [heffects, runs, step_program, ← reaches.view]
      exact (Rendered.of_quiet (quiet reaches.calm)).append (reaches.world ▸ rendered)
    | @shots d' pre reaches noDebug runs =>
      have hconfig : (d₀.call c).2.program.config = d'.program.config := by
        rw [runs]
        exact d'.runAllShots_reloads.config
      rw [hconfig] at hshots ⊢
      obtain ⟨es, hworld, rendered⟩ :=
        runAllShots_rendered hA (by simp [reaches.running]) hshots noDebug
      have heffects : d₀.effects c = pre ++ es :=
        effects_of_world (by rw [runs, hworld, reaches.world, playAll_append])
      rw [heffects, ← reaches.view]
      exact (Rendered.of_quiet (quiet reaches.calm)).append (reaches.world ▸ rendered)
  unstopped noDebug e he hstops := by
    rw [← calls_snoc] at noDebug he
    have debug := ((calls_supervised hA h (cs ++ [c])).stopped e he hstops).2
    exact absurd (debug.symm.trans noDebug) (by simp)

def secondFails : Debugger (.telling ["Hello\n", "again\n"] (.error .exited) .stubborn) :=
  telling _ _ _ ⟨[], [.ok .progressed, .error .exited]⟩

theorem secondFails_rendersFirst :
    (Surroundings.telling ["Hello\n", "again\n"] (.error .exited) .stubborn).Attentive ∧
      secondFails.Fresh ∧
      RendersFirst (secondFails.calls [.request 0 0 (.circuitLaunch 1 true), .resume 1000])
        (.request 1001 1001 ⟨2, .next⟩) ∧
      .engine (.eval .next []) ∈
        (secondFails.calls [.request 0 0 (.circuitLaunch 1 true), .resume 1000]).effects
          (.request 1001 1001 ⟨2, .next⟩) ∧
      .message (.event (.exited 1)) true ∈
        (secondFails.calls [.request 0 0 (.circuitLaunch 1 true), .resume 1000]).effects
          (.request 1001 1001 ⟨2, .next⟩) := by
  have hA := Surroundings.telling_attentive ["Hello\n", "again\n"] (.error .exited) .stubborn
  have hfresh : secondFails.Fresh := telling_fresh _ _ _ _
  exact ⟨hA, hfresh, calls_rendersFirst hA hfresh _ _, by decide +kernel, by decide +kernel⟩

end Debugger

end QuantumDebug
