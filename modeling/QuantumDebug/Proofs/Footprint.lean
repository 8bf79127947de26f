import QuantumDebug.Inspector
import QuantumDebug.Proofs.Record
import QuantumDebug.Shots

/-!
What the parts of a session leave behind in the world: which kinds of effects each of them has, and
which of its own data it keeps.
-/

namespace QuantumDebug

open World

variable {S : Surroundings}

def Effect.Unloading (e : Effect) : Prop := ∀ config, e ≠ .engine (.loadProgram config)

lemma Effect.unloading_of_not_runs {e : Effect} (h : ¬ e.Runs) : e.Unloading := by
  rintro config rfl
  exact h trivial

/-! ### Candidates and breakpoints -/

def Effect.Surveys (e : Effect) : Prop := ∃ source, e = .engine (.breakpoints source)

lemma Effect.Surveys.aside {e : Effect} (h : e.Surveys) : e.Aside := by
  obtain ⟨source, rfl⟩ := h
  trivial

lemma Resolver.load_surveys (r : Resolver) (source : Url) (w : World S) :
    w.Leads Effect.Surveys (r.load source w).2.2 := by
  unfold Resolver.load
  split
  · exact .refl w
  · exact .play (e := .engine (.breakpoints source)) ⟨source, rfl⟩ w

namespace Program

lemma armAll_keeps (p : Program) (w : World S) (waiting : List (String × List RequestedBreakpoint)) :
    (p.armAll w waiting).2.1.config = p.config ∧ (p.armAll w waiting).2.1.loaded = p.loaded := by
  induction waiting generalizing p w with
  | nil => exact ⟨rfl, rfl⟩
  | cons request rest ih =>
    unfold armAll
    split
    · exact ih p w
    · exact ih _ _

lemma armAll_surveys (p : Program) (w : World S)
    (waiting : List (String × List RequestedBreakpoint)) :
    w.Leads Effect.Surveys (p.armAll w waiting).2.2 := by
  induction waiting generalizing p w with
  | nil => exact .refl w
  | cons request rest ih =>
    unfold armAll
    split
    · exact ih p w
    · exact (p.resolver.load_surveys _ w).trans (ih _ _)

/-- The engine's answer to the question for the program. -/
def verdict (p : Program) (w : World S) : Except EngineError (List Url) :=
  (S.engine.loadProgram p.config w.engine).1

lemma load_error {p : Program} {w : World S} {e : EngineError} (h : p.verdict w = .error e) :
    p.load w = (.error e, { p with resolver := p.resolver.clear, loaded := false },
      w.play (.engine (.loadProgram p.config))) := by
  simp only [verdict] at h
  simp only [load, loadProgram_eq, h]

/-- A program with the sources of the engine's answer, before any waiting request is armed. -/
def ready (p : Program) (urls : List Url) : Program :=
  { ({ p with resolver := p.resolver.clear } : Program).withSources urls with
    breakpoints := p.breakpoints.takeDeferred.2 }

lemma load_ok {p : Program} {w : World S} {urls : List Url} (h : p.verdict w = .ok urls) :
    p.load w =
      let armed := (p.ready urls).armAll (w.play (.engine (.loadProgram p.config)))
        p.breakpoints.takeDeferred.1
      (.ok armed.1, armed.2.1, armed.2.2) := by
  simp only [verdict] at h
  simp only [load, loadProgram_eq, h]
  rfl

lemma load_loads {p : Program} {w : World S} {urls : List Url} (h : p.verdict w = .ok urls) :
    ∃ bs q es, p.load w = (.ok bs, q, (w.play (.engine (.loadProgram p.config))).playAll es) ∧
      q.config = p.config ∧ q.loaded = true ∧ ∀ e ∈ es, e.Surveys := by
  have hkeeps := (p.ready urls).armAll_keeps (w.play (.engine (.loadProgram p.config)))
    p.breakpoints.takeDeferred.1
  obtain ⟨es, surveys, hw⟩ := (p.ready urls).armAll_surveys
    (w.play (.engine (.loadProgram p.config))) p.breakpoints.takeDeferred.1
  exact ⟨_, _, es, by rw [load_ok h, ← hw], hkeeps.1, hkeeps.2, surveys⟩

lemma load_surveys (p : Program) (w : World S) :
    (w.play (.engine (.loadProgram p.config))).Leads Effect.Surveys (p.load w).2.2 := by
  rcases h : p.verdict w with e | urls
  · rw [load_error h]
    exact .refl _
  · rw [load_ok h]
    exact (p.ready urls).armAll_surveys _ _

/-- What holds of the one question of a load and of everything that is no load holds throughout. -/
lemma load_leads_of {P : Effect → Prop} (p : Program) (w : World S)
    (asks : P (.engine (.loadProgram p.config))) (rest : ∀ e : Effect, e.Unloading → P e) :
    w.Leads P (p.load w).2.2 := by
  have asked : w.Leads P (w.play (.engine (.loadProgram p.config))) := .play asks w
  exact asked.trans ((p.load_surveys w).mono fun e he =>
    rest e (Effect.unloading_of_not_runs he.aside.aftermath.not_runs))

lemma load_keeps (p : Program) (w : World S) :
    (p.load w).2.1.config = p.config ∧ w.Leads Effect.Work (p.load w).2.2 := by
  have asked : w.Leads Effect.Work (w.play (.engine (.loadProgram p.config))) :=
    .play (.inl trivial) w
  refine ⟨?_, asked.trans ((p.load_surveys w).mono fun _ he => he.aside.work)⟩
  rcases h : p.verdict w with e | urls
  · rw [load_error h]
  · rw [load_ok h]
    exact ((p.ready urls).armAll_keeps _ _).1

end Program

/-! ### The panel and the scopes -/

lemma Visualization.update_leads (v : Visualization) (failure : Option EngineError) (w : World S) :
    w.Leads Effect.Aside (v.update failure w).2 := by
  unfold Visualization.update
  split
  · simp only [circuit_eq, updatePanel_eq]
    exact (Leads.play (e := .engine .circuit) trivial w).trans (.play trivial _)
  · exact .refl w

lemma Inspector.lookInto_leads (i : Inspector) (reference : Int) (v : Visualization)
    (w : World S) : w.Leads Effect.Aside (i.lookInto reference v w).2.2 := by
  unfold Inspector.lookInto
  split
  · exact .refl w
  · exact .play (e := .engine .localVariables) trivial w
  · have asked : w.Leads Effect.Aside (w.play (.engine .quantumState)) := .play trivial w
    simp only [Inspector.quantumState, quantumState_eq]
    cases (S.engine.quantumState w.engine).1 with
    | ok entries => exact asked.trans (.play (e := .telemetry (.quantumStateCaptured _)) trivial _)
    | error e => exact asked
  · exact v.enable.update_leads none w

/-! ### Runs -/

lemma World.output_leads {P : Effect → Prop} (w : World S) (category : OutputCategory)
    (text : String) (h : ∀ ok, P (.message (.event (.output category text)) ok)) :
    w.Leads P (w.output category text) := by
  obtain ⟨ok, hout⟩ := w.output_eq category text
  exact hout ▸ .play (h ok) w

lemma World.forward_leads {P : Effect → Prop} (w : World S) (texts : List String)
    (h : ∀ text ok, P (.message (.event (.output .stdout text)) ok)) :
    w.Leads P (w.forward texts) := by
  induction texts generalizing w with
  | nil => exact .refl w
  | cons text texts ih => exact (w.output_leads .stdout text (h text)).trans (ih _)

def World.outcome (w : World S) (action : StepAction) (armed : List Int) : StepOutcome :=
  .ofAnswer (S.engine.eval action armed w.engine).1.2

lemma runStep_outcome (action : StepAction) (armed : List Int) (v : Visualization) (w : World S) :
    (runStep action armed v w).1 = w.outcome action armed := rfl

lemma runStep_leads (action : StepAction) (armed : List Int) (v : Visualization) (w : World S) :
    (w.play (.engine (.eval action armed))).Leads Effect.Aftermath
      (runStep action armed v w).2.2 := by
  simp only [runStep, eval_eq]
  exact (World.forward_leads _ _ fun _ _ => trivial).trans
    ((Visualization.update_leads _ _ _).mono fun _ => Effect.Aside.aftermath)

lemma runStep_work (action : StepAction) (armed : List Int) (v : Visualization) (w : World S) :
    w.Leads Effect.Work (runStep action armed v w).2.2 :=
  (Leads.play (.inl trivial) w).trans
    ((runStep_leads action armed v w).mono fun _ => Effect.Aftermath.work)

lemma runStep_unloading (action : StepAction) (armed : List Int) (v : Visualization)
    (w : World S) : w.Leads Effect.Unloading (runStep action armed v w).2.2 := by
  have asked : w.Leads Effect.Unloading (w.play (.engine (.eval action armed))) :=
    .play (by simp [Effect.Unloading]) w
  exact asked.trans ((runStep_leads action armed v w).mono fun _ he =>
    Effect.unloading_of_not_runs he.not_runs)

/-! ### Shots -/

/-- A relation between programs, what is known of the panel and worlds that holds over every part
of the shots. -/
structure KeptByShots
    (R : Program × Visualization × World S → Program × Visualization × World S → Prop) : Prop where
  refl (s : Program × Visualization × World S) : R s s
  trans {s₁ s₂ s₃ : Program × Visualization × World S} : R s₁ s₂ → R s₂ s₃ → R s₁ s₃
  run (p : Program) (v : Visualization) (w : World S) :
    R (p, v, w) (p, (runStep .continue [] v w).2)
  report (p : Program) (v : Visualization) (w : World S) (text : String) :
    R (p, v, w) (p, v, w.output .console text)
  load (p : Program) (v : Visualization) (w : World S) :
    R (p, v, w) ((p.load w).2.1, v, (p.load w).2.2)

section KeptByShots

variable {R : Program × Visualization × World S → Program × Visualization × World S → Prop}

lemma KeptByShots.after_run (kept : KeptByShots R) (total left : Nat) (p : Program)
    (v : Visualization) (w : World S) :
    R (p, (runStep .continue [] v w).2)
      (runShotsLeft Program.reload total (left + 1) p v w).2 := by
  induction left generalizing p v w with
  | zero =>
    unfold runShotsLeft
    rcases runStep .continue [] v w with ⟨outcome, v', w'⟩
    cases outcome with
    | completed => exact kept.report p v' w' _
    | _ => exact kept.refl _
  | succ left ih =>
    rw [runShotsLeft]
    rcases runStep .continue [] v w with ⟨outcome, v', w'⟩
    cases outcome with
    | completed =>
      let reported := w'.output .console (finishedShot (total - (left + 1)) total)
      have again : R (p, v', w') ((p.load reported).2.1, v', (p.load reported).2.2) :=
        kept.trans (kept.report p v' w' _) (kept.load p v' reported)
      simp only [Program.reload]
      rcases hl : p.load reported with ⟨answer, q, w''⟩
      rw [hl] at again
      cases answer with
      | error e => exact again
      | ok bs => exact kept.trans again (kept.trans (kept.run q v' w'') (ih q v' w''))
    | _ => exact kept.refl _

/-- What every part of the shots keeps, the shots keep. -/
lemma KeptByShots.runShotsLeft (kept : KeptByShots R) (total left : Nat) (p : Program)
    (v : Visualization) (w : World S) :
    R (p, v, w) (runShotsLeft Program.reload total left p v w).2 := by
  cases left with
  | zero => exact kept.refl _
  | succ left => exact kept.trans (kept.run p v w) (kept.after_run total left p v w)

end KeptByShots

lemma works_keptByShots : KeptByShots (S := S) fun s s' =>
    s'.1.config = s.1.config ∧ s.2.2.Leads Effect.Work s'.2.2 where
  refl _ := ⟨rfl, .refl _⟩
  trans h h' := ⟨h'.1.trans h.1, h.2.trans h'.2⟩
  run _ v w := ⟨rfl, runStep_work .continue [] v w⟩
  report _ _ w text := ⟨rfl, w.output_leads .console text fun _ => .inr trivial⟩
  load p _ w := p.load_keeps w

lemma runShotsLeft_keeps (total left : Nat) (p : Program) (v : Visualization) (w : World S) :
    (runShotsLeft Program.reload total left p v w).2.1.config = p.config ∧
      w.Leads Effect.Work (runShotsLeft Program.reload total left p v w).2.2.2 :=
  works_keptByShots.runShotsLeft total left p v w

end QuantumDebug
