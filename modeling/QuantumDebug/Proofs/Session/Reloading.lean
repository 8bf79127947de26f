import QuantumDebug.Proofs.Session.Configuration
import QuantumDebug.Proofs.Session.Parts
import QuantumDebug.Proofs.Session.Scripted

/-!
Loads after the first. Requests wait only for a program that is not loaded, so a load between two
shots finds none that waits: it arms nothing and leaves what is armed alone. That rests on an
invariant of the program which a load brings about, whether it fails or not, and which nothing else
that a session does takes away.
-/

namespace QuantumDebug

open World

variable {S : Surroundings}

namespace Program

/-! ### Nothing waits for a program that is loaded -/

/-- Requests wait only while the program is not loaded. -/
def CaughtUp (p : Program) : Prop := p.loaded = true → p.breakpoints.deferred = .empty

/-- A load that has failed: whatever was kept of places to stop is gone and the program counts as
not loaded. Its sources, what is armed in them and what waits are as they were. -/
structure Unloads (p q : Program) : Prop where
  loaded : q.loaded = false
  cache : q.resolver.cache = .empty
  coords : q.resolver.coords = p.resolver.coords
  config : q.config = p.config
  sources : q.sources = p.sources
  breakpoints : q.breakpoints = p.breakpoints

/-- A load for which nothing waits: it asks the engine for the program alone, arms nothing that
would have to be told, and leaves what is armed. -/
structure LoadsSilently (p : Program) (w : World S) : Prop where
  loaded : p.loaded = true
  deferred : p.breakpoints.deferred = .empty
  asks : (p.load w).2.2 = w.play (.engine (.loadProgram p.config))
  announced : ∀ bs, (p.load w).1 = .ok bs → bs = []
  breakpoints : (p.load w).2.1.breakpoints = p.breakpoints

section Load

variable {p : Program} {w : World S}

lemma load_unloads {e : EngineError} (failed : (p.load w).1 = .error e) :
    Unloads p (p.load w).2.1 := by
  rcases hv : p.verdict w with e' | urls
  · rw [load_error hv]
    exact ⟨rfl, rfl, rfl, rfl, rfl, rfl⟩
  · rw [load_ok hv] at failed
    cases failed

lemma load_of_ok {bs : List Breakpoint} (loads : (p.load w).1 = .ok bs) :
    (p.load w).2.1.loaded = true := by
  rcases hv : p.verdict w with e | urls
  · rw [load_error hv] at loads
    cases loads
  · obtain ⟨q, es, heq, loaded, -⟩ := load_loadedFrom hv
    rw [heq]
    exact loaded.loaded

/-- A load takes up all that waits, or the program is not loaded after it. -/
lemma load_caughtUp (p : Program) (w : World S) : (p.load w).2.1.CaughtUp := by
  intro loaded
  rcases hv : p.verdict w with e | urls
  · rw [load_error hv] at loaded
    cases loaded
  · obtain ⟨q, es, heq, taken, -⟩ := load_loadedFrom hv
    rw [heq, taken.breakpoints]

lemma CaughtUp.loadsSilently (h : p.CaughtUp) (loaded : p.loaded = true) (w : World S) :
    p.LoadsSilently w where
  loaded := loaded
  deferred := h loaded
  asks := by
    rcases hv : p.verdict w with e | urls
    · rw [load_error hv]
    · rw [load_ok hv, BreakpointSet.takeDeferred, h loaded]
      rfl
  announced bs hbs := by
    rcases hv : p.verdict w with e | urls
    · rw [load_error hv] at hbs
      cases hbs
    · rw [load_ok hv, BreakpointSet.takeDeferred, h loaded] at hbs
      exact (Except.ok.inj hbs).symm
  breakpoints := load_breakpoints (h loaded) w

lemma CaughtUp.setBreakpoints (h : p.CaughtUp) (source : Source)
    (requested : List RequestedBreakpoint) (w : World S) :
    (p.setBreakpoints source requested w).2.1.CaughtUp := by
  intro loaded
  rw [(p.setBreakpoints_keeps source requested w).2.2.1] at loaded
  cases named : p.sources.resolveSource source with
  | some url =>
    rw [setBreakpoints_named loaded named, arm_breakpoints]
    exact h loaded
  | none =>
    rw [setBreakpoints_unnamed loaded named]
    exact h loaded

end Load

/-! ### A program among effects -/

/-- The program after an effect: a load makes it anew, and nothing else concerns it. -/
def after (p : Program) (w : World S) : Effect → Program
  | .engine (.loadProgram _) => (p.load w).2.1
  | _ => p

def replay (p : Program) (w : World S) : List Effect → Program
  | [] => p
  | e :: es => (p.after w e).replay (w.play e) es

/-- No load, or one of this very program, which has been loaded before. -/
def Renewed (p : Program) : Effect → Prop
  | .engine (.loadProgram config) => config = p.config ∧ p.loaded = true
  | _ => True

/-- Every load among effects that begin in a world is one of the program as it then is, and finds it
loaded. -/
def Renews (p : Program) (w : World S) : List Effect → Prop
  | [] => True
  | e :: es => p.Renewed e ∧ (p.after w e).Renews (w.play e) es

section Replay

variable {p p₁ p₂ : Program} {w w₁ w₂ : World S} {e : Effect} {es fs : List Effect}

lemma after_of_unloading (h : e.Unloading) (p : Program) (w : World S) : p.after w e = p := by
  unfold after
  split
  · exact absurd rfl (h _)
  · rfl

lemma renewed_of_unloading (h : e.Unloading) (p : Program) : p.Renewed e := by
  unfold Renewed
  split
  · exact absurd rfl (h _)
  · trivial

lemma replay_append (p : Program) (w : World S) (es fs : List Effect) :
    p.replay w (es ++ fs) = (p.replay w es).replay (w.playAll es) fs := by
  induction es generalizing p w with
  | nil => rfl
  | cons e es ih => exact ih _ _

lemma renews_append :
    p.Renews w (es ++ fs) ↔ p.Renews w es ∧ (p.replay w es).Renews (w.playAll es) fs := by
  induction es generalizing p w with
  | nil => exact (iff_of_eq (true_and _)).symm
  | cons e es ih =>
    show p.Renewed e ∧ (p.after w e).Renews (w.play e) (es ++ fs) ↔
      (p.Renewed e ∧ (p.after w e).Renews (w.play e) es) ∧ _
    rw [ih, and_assoc]
    rfl

lemma replay_of_unloading (h : ∀ e ∈ es, e.Unloading) (p : Program) (w : World S) :
    p.replay w es = p := by
  induction es generalizing w with
  | nil => rfl
  | cons e es ih =>
    obtain ⟨first, rest⟩ := List.forall_mem_cons.mp h
    rw [replay, after_of_unloading first, ih rest]

lemma renews_of_unloading (h : ∀ e ∈ es, e.Unloading) (p : Program) (w : World S) :
    p.Renews w es := by
  induction es generalizing w with
  | nil => trivial
  | cons e es ih =>
    obtain ⟨first, rest⟩ := List.forall_mem_cons.mp h
    refine ⟨renewed_of_unloading first p, ?_⟩
    rw [after_of_unloading first]
    exact ih rest _

lemma Renews.replay_eq (renews : p.Renews w es) (unloaded : p.loaded = false) :
    p.replay w es = p := by
  refine replay_of_unloading ?_ p w
  induction es generalizing w with
  | nil => simp
  | cons e es ih =>
    obtain ⟨first, rest⟩ := renews
    have quiet : e.Unloading := by
      rintro config rfl
      exact absurd (unloaded.symm.trans first.2) (by simp)
    rw [after_of_unloading quiet] at rest
    exact List.forall_mem_cons.mpr ⟨quiet, ih rest⟩

lemma CaughtUp.replay (h : p.CaughtUp) (w : World S) (es : List Effect) :
    (p.replay w es).CaughtUp := by
  induction es generalizing p w with
  | nil => exact h
  | cons e es ih =>
    refine ih ?_ _
    unfold after
    split
    · exact p.load_caughtUp w
    · exact h

/-- One program and world come of another by effects that make the program anew only once it has
been loaded. -/
def Retraces (p : Program) (w : World S) (p' : Program) (w' : World S) : Prop :=
  ∃ es, w' = w.playAll es ∧ p' = p.replay w es ∧ p.Renews w es

lemma Retraces.of_leads (leads : w.Leads Effect.Unloading w₁) (p : Program) :
    Retraces p w p w₁ := by
  obtain ⟨es, unloading, rfl⟩ := leads
  exact ⟨es, rfl, (replay_of_unloading unloading p w).symm, renews_of_unloading unloading p w⟩

lemma Retraces.trans (h₁ : Retraces p w p₁ w₁) (h₂ : Retraces p₁ w₁ p₂ w₂) :
    Retraces p w p₂ w₂ := by
  obtain ⟨es, rfl, rfl, hes⟩ := h₁
  obtain ⟨fs, rfl, rfl, hfs⟩ := h₂
  exact ⟨es ++ fs, (playAll_append _ _ _).symm, (replay_append _ _ _ _).symm,
    renews_append.mpr ⟨hes, hfs⟩⟩

lemma load_unloading (p : Program) (w : World S) :
    (w.play (.engine (.loadProgram p.config))).Leads Effect.Unloading (p.load w).2.2 :=
  (p.load_surveys w).mono fun _ he => Effect.unloading_of_not_runs he.aside.aftermath.not_runs

lemma Retraces.load (loaded : p.loaded = true) (w : World S) :
    Retraces p w (p.load w).2.1 (p.load w).2.2 := by
  have asked : Retraces p w (p.load w).2.1 (w.play (.engine (.loadProgram p.config))) :=
    ⟨[.engine (.loadProgram p.config)], rfl, rfl, ⟨rfl, loaded⟩, trivial⟩
  exact asked.trans (.of_leads (p.load_unloading w) _)

end Replay

end Program

/-! ### Shots -/

/-- The shots of a loaded program load it anew only after it has been loaded: a load that fails is
their last. -/
lemma runShotsLeft_retraces (total left : Nat) {p : Program} (loaded : p.loaded = true)
    (v : Visualization) (w : World S) :
    let run := runShotsLeft Program.reload total left p v w
    Program.Retraces p w run.2.1 run.2.2.2 := by
  induction left generalizing p v w with
  | zero => exact .of_leads (.refl w) p
  | succ left ih =>
    have ran : Program.Retraces p w p (runStep .continue [] v w).2.2 :=
      .of_leads (runStep_unloading .continue [] v w) p
    rw [runShotsLeft]
    generalize runStep .continue [] v w = step at ran ⊢
    obtain ⟨outcome, v', w'⟩ := step
    cases outcome with
    | completed =>
      let reported := w'.output .console (finishedShot (total - left) total)
      have again : Program.Retraces p w p reported :=
        ran.trans (.of_leads (w'.output_leads .console _ fun _ => by simp [Effect.Unloading]) p)
      dsimp only
      split
      · exact again
      · have loads := again.trans (.load loaded reported)
        have success (bs : List Breakpoint) : (p.load reported).1 = .ok bs →
            (p.load reported).2.1.loaded = true := Program.load_of_ok
        simp only [Program.reload]
        generalize p.load reported = load at loads success ⊢
        obtain ⟨answer, q, w''⟩ := load
        cases answer with
        | error e => exact loads
        | ok bs => exact loads.trans (ih (success bs rfl) v' w'')
    | _ => exact ran

namespace Debugger

/-! ### Parts of a call -/

/-- The program of a session, as its world, has come of another by effects that make it anew only
once it has been loaded. -/
def Retraces (d d' : Debugger S) : Prop := d.program.Retraces d.world d'.program d'.world

section Parts

variable {d d₁ d₂ : Debugger S} {h : Handled S}

lemma Retraces.trans (h₁ : Retraces d d₁) (h₂ : Retraces d₁ d₂) : Retraces d d₂ :=
  Program.Retraces.trans h₁ h₂

lemma Retraces.refl (d : Debugger S) : Retraces d d := .of_leads (.refl _) _

lemma Retraces.andThen {f : Debugger S → Handled S} (first : Retraces d h.2)
    (rest : ∀ d', Retraces d' (f d').2) : Retraces d (h.andThen f).2 := by
  obtain ⟨answer, d'⟩ := h
  cases answer with
  | ok => exact first.trans (rest d')
  | error => exact first

lemma Retraces.failWith (first : Retraces d h.2) (e : SessionError) :
    Retraces d (h.failWith e).2 :=
  first.andThen fun d' => .refl d'

lemma Retraces.of_program (hprogram : d₁.program = d.program)
    (leads : d.world.Leads Effect.Unloading d₁.world) : Retraces d d₁ := by
  rw [Retraces, hprogram]
  exact .of_leads leads _

lemma send_retraces (d : Debugger S) (m : Message) : Retraces d (d.send m).2 := by
  obtain ⟨ok, -, heq⟩ := d.send_ok m
  rw [heq]
  exact .of_program rfl (.play (e := .message m ok) (by simp [Effect.Unloading]) _)

lemma tellAll_retraces (d : Debugger S) (events : List Event) :
    Retraces d (d.tellAll events).2 := by
  induction events generalizing d with
  | nil => exact .refl d
  | cons e events ih => exact .andThen (d.send_retraces (.event e)) ih

lemma endSession_retraces (d : Debugger S) (message : String) (code : Int) :
    Retraces d (d.endSession message code).2 := by
  have closes : Retraces d (d.closed code) :=
    .of_program rfl (.play (e := .telemetry (.sessionEnd code)) (by simp [Effect.Unloading]) _)
  unfold endSession
  split
  · exact .refl d
  · exact closes.trans (tellAll_retraces _ _)

lemma sendAndEnd_retraces (d : Debugger S) (m : Message) (message : String) (code : Int) :
    Retraces d ((d.send m).andThen (·.endSession message code)).2 :=
  .andThen (d.send_retraces m) fun d' => d'.endSession_retraces message code

lemma step_retraces (d : Debugger S) (action : StepAction) : Retraces d (d.step action).2 := by
  unfold step
  split
  · have ran := runStep_unloading action d.program.breakpoints.armedIds d.view d.world
    generalize runStep action d.program.breakpoints.armedIds d.view d.world = step at ran ⊢
    obtain ⟨outcome, v, w⟩ := step
    let ended : Debugger S := { d with inspector := d.inspector.reset, view := v, world := w }
    have ends : Retraces d ended := .of_program rfl ran
    cases outcome with
    | failed e => exact ends.trans (ended.sendAndEnd_retraces _ _ _)
    | completed => exact ends.trans (ended.endSession_retraces _ _)
    | breakpointHit id => exact ends.trans (ended.send_retraces _)
    | progressed => exact ends.trans (ended.send_retraces _)
  · exact .refl d

lemma runAllShots_retraces (loaded : d.program.loaded = true) :
    Retraces d d.runAllShots.2 := by
  have ran := runShotsLeft_retraces (max d.program.config.shotCount 1)
    (max d.program.config.shotCount 1) loaded d.view d.world
  unfold runAllShots runShots
  generalize runShotsLeft Program.reload (max d.program.config.shotCount 1)
    (max d.program.config.shotCount 1) d.program d.view d.world = shots at ran ⊢
  obtain ⟨how, p, v, w⟩ := shots
  let ended : Debugger S :=
    { d with inspector := d.inspector.reset, program := p, view := v, world := w }
  have ends : Retraces d ended := ran
  refine .andThen ?_ fun d' => d'.endSession_retraces _ _
  cases how with
  | failed shot e => exact ends.trans (ended.send_retraces _)
  | completed => exact ends
  | incomplete shot => exact ends

lemma run_retraces (loaded : d.program.loaded = true) : Retraces d d.run.2 := by
  unfold run
  split
  · exact runAllShots_retraces loaded
  · exact d.step_retraces _

lemma resume_retraces (waits : d.pending ≠ none → d.program.loaded = true) (now : Nat) :
    Retraces d (d.resume now).2 := by
  unfold resume
  split
  · exact .refl d
  · rename_i l hpending
    split
    · let d' : Debugger S := { d with pending := none }
      have answers : Retraces d (d'.respond l.request .launch).2 := d'.send_retraces _
      have hprogram : (d'.respond l.request .launch).2.program = d.program :=
        d'.respond_program _ _
      generalize d'.respond l.request .launch = answered at answers hprogram ⊢
      obtain ⟨_ | _, d''⟩ := answered
      · exact answers
      · have loaded : d''.program.loaded = true := by
          rw [hprogram]
          exact waits (by simp [hpending])
        exact answers.trans (run_retraces (d := d''.advance .running) loaded)
    · exact .refl d

lemma launchWith_retraces (d : Debugger S) (now later : Nat) (r : Request)
    (config : RunConfiguration) :
    Program.Retraces (d.loadedBy config)
      ((d.configure config).world.play (.engine (.loadProgram config)))
      (d.launchWith now later r config).2.program (d.launchWith now later r config).2.world := by
  have loads : Program.Retraces (d.loadedBy config)
      ((d.configure config).world.play (.engine (.loadProgram config))) (d.loadedBy config)
      ((d.configure config).program.load (d.configure config).world).2.2 :=
    .of_leads ((d.configure config).program.load_unloading _) _
  have success (bs : List Breakpoint) :
      ((d.configure config).program.load (d.configure config).world).1 = .ok bs →
        ((d.configure config).program.load (d.configure config).world).2.1.loaded = true :=
    Program.load_of_ok
  have hp : d.loadedBy config =
      ((d.configure config).program.load (d.configure config).world).2.1 := rfl
  rw [hp] at loads ⊢
  unfold launchWith
  dsimp only
  generalize (d.configure config).program.load (d.configure config).world = load at loads success ⊢
  obtain ⟨answer, p, w⟩ := load
  let d' : Debugger S := { d.configure config with program := p, world := w }
  cases answer with
  | error e => exact loads.trans (d'.sendAndEnd_retraces _ _ _)
  | ok bs =>
    have tells := d'.tellAll_retraces (bs.map .breakpoint)
    obtain ⟨es, ok, -, heq⟩ := d'.tellAll_sent (bs.map .breakpoint)
    dsimp only
    rw [heq] at tells ⊢
    cases ok with
    | false => exact loads.trans tells
    | true =>
      rw [andThen_true]
      exact (loads.trans tells).trans (resume_retraces
        (d := (d'.play es).await now r) (fun _ => success bs rfl) later)

end Parts

/-! ### Calls -/

/-- The session with what a call changes by itself, before anything is sent, run or loaded. -/
def entered (d : Debugger S) : Call → Debugger S
  | .request _ _ r => d.begun r.command
  | .resume _ => d

lemma entered_unloading (d : Debugger S) (c : Call) :
    d.world.Leads Effect.Unloading (d.entered c).world := by
  cases c with
  | request now later r =>
    exact (d.begun_leads r.command).mono fun _ he => Effect.unloading_of_not_runs he.not_runs
  | resume now => exact .refl _

lemma entered_caughtUp {d : Debugger S} (h : d.program.CaughtUp) (c : Call) :
    (d.entered c).program.CaughtUp := by
  cases c with
  | resume now => exact h
  | request now later r =>
    dsimp only [entered]
    cases r.command with
    | launch noDebug data =>
      dsimp only [begun]
      cases d.accepted? noDebug data with
      | ok config => exact h
      | error e => exact h
    | setBreakpoints source requested => exact h.setBreakpoints source requested d.world
    | breakpointLocations source requested =>
      dsimp only [begun]
      rw [consulted_eq]
      exact h
    | «variables» reference =>
      dsimp only [begun]
      rw [looked, rememberView_eq]
      exact h
    | _ => exact h

section Call

variable {d : Debugger S} {c : Call} {config : RunConfiguration}

lemma launch_retraces_of_refused {noDebug : Option Bool} {data : Option Json} {e : SessionError}
    (refused : d.accepted? noDebug data = .error e) (now later : Nat) (r : Request) :
    Retraces d (d.launch now later r noDebug data).2 := by
  unfold accepted? at refused
  unfold launch
  split at refused
  · rw [if_pos ‹_›]
    exact .failWith (d.send_retraces _) _
  · rw [if_neg ‹_›, refused]
    exact .failWith (d.send_retraces _) _

lemma configurationDone_retraces (waits : d.pending ≠ none → d.program.loaded = true) (now : Nat)
    (r : Request) : Retraces d (d.configurationDone now r).2 := by
  have answers := d.send_retraces (.response (r.success .configurationDone))
  unfold configurationDone
  rcases d.send_arrival (.response (r.success .configurationDone)) with heq | ⟨-, heq⟩
  · rw [heq] at answers
    rw [respond, heq, andThen_true]
    exact answers.trans (resume_retraces (d := { d.play
      [r.answer (.success .configurationDone) true] with configured := true }) waits now)
  · rw [heq] at answers
    rw [respond, heq, andThen_false]
    exact answers

/-- A call that takes up no launch makes the program anew only if it has been loaded before. -/
lemma call_retraces (hd : Patient d) (h : d.takes? c = none) :
    Retraces (d.entered c) (d.call c).2 := by
  have waits : d.pending ≠ none → d.program.loaded = true := fun hp => (hd hp).2.2
  cases c with
  | resume now => exact resume_retraces waits now
  | request now later r =>
    show Retraces (d.begun r.command) (d.handle now r later).2
    by_cases looks : r.command.looks = true
    · obtain ⟨body, heq, -⟩ := d.handle_looks now later looks
      rw [heq]
      exact send_retraces _ _
    have steps (body : ResponseBody) (action : StepAction) :
        Retraces d (d.respondAndStep r body action).2 :=
      .andThen (d.send_retraces _) fun d' => d'.step_retraces action
    unfold Debugger.handle
    cases command : r.command with
    | initializeSession lines columns types =>
      exact .andThen (send_retraces (d.greeted lines columns types) _) fun d' => d'.send_retraces _
    | launch noDebug data =>
      have asks : (Call.request now later r).Asks (.launch noDebug data) := congrArg some command
      cases accepted : d.accepted? noDebug data with
      | ok config => simp [takes?_of_asks asks accepted] at h
      | error e =>
        dsimp only [begun]
        rw [accepted]
        exact launch_retraces_of_refused accepted now later r
    | configurationDone => exact configurationDone_retraces waits now r
    | «continue» => exact steps _ _
    | next => exact steps _ _
    | stepIn => exact steps _ _
    | stepOut => exact steps _ _
    | terminate => exact sendAndEnd_retraces { d with world := d.world.terminate } _ _ _
    | disconnect =>
      let d' : Debugger S := { d with world := d.world.terminate, pending := none }
      exact .failWith (send_retraces (d'.advance .terminated) _) _
    | unsupported name => exact .failWith (d.send_retraces _) _
    | _ => simp [command, Command.looks] at looks

lemma takes_retraces (h : d.takes? c = some config) :
    Program.Retraces (d.loadedBy config)
      ((d.configure config).world.play (.engine (.loadProgram config)))
      (d.call c).2.program (d.call c).2.world := by
  obtain ⟨now, later, r, noDebug, data, rfl, command, accepted⟩ := takes?_eq_some h
  have hcall : d.call (.request now later r) = d.launchWith now later r config := by
    have hphase := accepted_phase accepted
    rw [accepted?, if_neg hphase] at accepted
    simp only [call, handle, command, launch, if_neg hphase, accepted]
  rw [hcall]
  exact d.launchWith_retraces now later r config

lemma entered_of_takes (h : d.takes? c = some config) : d.entered c = d.configure config := by
  obtain ⟨now, later, r, noDebug, data, rfl, command, accepted⟩ := takes?_eq_some h
  simp only [entered, begun, command, accepted]

def programAfter (d : Debugger S) (c : Call) (pre : List Effect) : Program :=
  (d.entered c).program.replay d.world pre

/-- What a call makes of the program, seen from its loads. -/
structure Course (d : Debugger S) (c : Call) : Prop where
  follows : (d.call c).2.program = d.programAfter c (d.effects c)
  loads : ∀ pre config post, d.effects c = pre ++ .engine (.loadProgram config) :: post →
    config = (d.programAfter c pre).config ∧
      (d.takes? c = some config ∧ pre = [taken config] ∨ (d.programAfter c pre).loaded = true) ∧
      ((d.programAfter c pre).load (d.world.playAll pre)).2.1.Renews
        ((d.world.playAll pre).play (.engine (.loadProgram config))) post

lemma call_course_of_quiet (hd : Patient d) (h : d.takes? c = none) : Course d c := by
  have retraces : Program.Retraces (d.entered c).program d.world (d.call c).2.program
      (d.call c).2.world := (Program.Retraces.of_leads (d.entered_unloading c) _).trans
    (call_retraces hd h)
  obtain ⟨es, hworld, hprogram, renews⟩ := retraces
  obtain rfl := effects_of_world hworld
  refine ⟨hprogram, fun pre config post heq => ?_⟩
  rw [heq] at renews
  obtain ⟨-, ⟨hconfig, loaded⟩, later⟩ := Program.renews_append.mp renews
  exact ⟨hconfig, .inr loaded, later⟩

lemma programAfter_taken (h : d.takes? c = some config) :
    d.programAfter c [taken config] = (d.configure config).program := by
  rw [programAfter, entered_of_takes h]
  rfl

lemma programAfter_loaded (h : d.takes? c = some config) (mid : List Effect) :
    d.programAfter c (taken config :: .engine (.loadProgram config) :: mid) =
      (d.loadedBy config).replay
        ((d.configure config).world.play (.engine (.loadProgram config))) mid := by
  rw [programAfter, entered_of_takes h]
  rfl

lemma call_course_of_takes (h : d.takes? c = some config) : Course d c := by
  obtain ⟨es, hworld, hprogram, renews⟩ := takes_retraces h
  have heffects : d.effects c = taken config :: .engine (.loadProgram config) :: es :=
    effects_of_world hworld
  refine ⟨by rw [heffects, programAfter_loaded h, hprogram], fun pre config' post heq => ?_⟩
  rw [heffects] at heq
  rcases pre with _ | ⟨e, _ | ⟨e', pre⟩⟩
  · simp [taken] at heq
  · -- the load of the launch itself
    obtain ⟨rfl, hload, rfl⟩ : taken config = e ∧ config = config' ∧ es = post := by
      simpa using heq
    subst hload
    rw [programAfter_taken h]
    exact ⟨rfl, .inl ⟨h, rfl⟩, renews⟩
  · obtain ⟨rfl, rfl, rfl⟩ : taken config = e ∧ .engine (.loadProgram config) = e' ∧
        es = pre ++ .engine (.loadProgram config') :: post := by simpa using heq
    obtain ⟨-, ⟨hconfig, loaded⟩, later⟩ := Program.renews_append.mp renews
    rw [programAfter_loaded h]
    exact ⟨hconfig, .inr loaded, later⟩

theorem call_course (hd : Patient d) (c : Call) : Course d c := by
  cases htakes : d.takes? c with
  | none => exact call_course_of_quiet hd htakes
  | some config => exact call_course_of_takes htakes

lemma calls_caughtUp (h : d.Fresh) (cs : List Call) : (d.calls cs).program.CaughtUp := by
  induction cs using List.reverseRecOn with
  | nil =>
    rw [calls_nil, h.program]
    exact fun _ => rfl
  | append_singleton cs c ih =>
    rw [calls_snoc, (call_course (calls_patient h cs) c).follows]
    exact (entered_caughtUp ih c).replay _ _

/-! ### The result -/

/-- What becomes of the requests that wait for a program, at a call. -/
structure NoneWaits (d : Debugger S) (c : Call) : Prop where
  /-- None waits for a program that is loaded, neither before the call nor at any moment of it. -/
  settled : d.program.CaughtUp
  throughout : ∀ pre post, d.effects c = pre ++ post → (d.programAfter c pre).CaughtUp
  /-- The call makes the program anew where it asks the engine for a load, and nowhere else. -/
  follows : (d.call c).2.program = d.programAfter c (d.effects c)
  /-- What is loaded is the program as it then is. A launch loads it first of all. Any other load,
  as all those between two shots are, arms nothing that would have to be told, and what is armed
  stays armed. -/
  loads : ∀ pre config post, d.effects c = pre ++ .engine (.loadProgram config) :: post →
    config = (d.programAfter c pre).config ∧
      (d.takes? c = some config ∧ pre = [taken config] ∨
        (d.programAfter c pre).LoadsSilently (d.world.playAll pre))
  /-- A load that fails leaves all but what was kept of places to stop, and the program as it is
  left so is the program after the call. -/
  fails : ∀ pre config post e, d.effects c = pre ++ .engine (.loadProgram config) :: post →
    ((d.programAfter c pre).load (d.world.playAll pre)).1 = .error e →
      (d.programAfter c pre).Unloads (d.call c).2.program

end Call

/-- **Nothing waits for a program that is loaded**, and so a load between two shots arms nothing. -/
theorem calls_noneWaits {d : Debugger S} (h : d.Fresh) (cs : List Call) (c : Call) :
    NoneWaits (d.calls cs) c := by
  have settled := calls_caughtUp h cs
  have course := call_course (calls_patient h cs) c
  have throughout (pre : List Effect) : ((d.calls cs).programAfter c pre).CaughtUp :=
    (entered_caughtUp settled c).replay _ _
  refine ⟨settled, fun pre _ _ => throughout pre, course.follows, ?_, ?_⟩
  · intro pre config post heq
    obtain ⟨hconfig, own | loaded, -⟩ := course.loads pre config post heq
    · exact ⟨hconfig, .inl own⟩
    · exact ⟨hconfig, .inr ((throughout pre).loadsSilently loaded _)⟩
  · intro pre config post e heq failed
    have unloads := Program.load_unloads failed
    have later := (course.loads pre config post heq).2.2
    -- nothing makes the program anew after that
    have hprogram : (d.calls cs).programAfter c ((d.calls cs).effects c) =
        (((d.calls cs).programAfter c pre).load ((d.calls cs).world.playAll pre)).2.1 := by
      rw [heq, programAfter, Program.replay_append]
      exact later.replay_eq unloads.loaded
    rw [course.follows, hprogram]
    exact unloads

def thirdLoadFails : Debugger (.surveyed filePlaces) :=
  surveyed filePlaces
    ⟨[.ok [.localFile "/main.qs"], .ok [.localFile "/main.qs"], .error .exited], []⟩

theorem thirdLoadFails_noneWaits :
    let d := thirdLoadFails.calls
      [.request 0 0 (.breakAt 1 "/main.qs" 3), .request 10 10 ⟨2, .configurationDone⟩]
    let c : Call := .request 20 20 (.shotsLaunch 3 5)
    thirdLoadFails.Fresh ∧ NoneWaits d c ∧ d.program.breakpoints.deferred ≠ .empty ∧
      (d.effects c).count (.engine (.loadProgram (d.call c).2.program.config)) = 3 ∧
      (d.call c).2.program.loaded = false ∧ (d.call c).2.program.breakpoints.armedIds = [2] := by
  have hfresh : thirdLoadFails.Fresh := surveyed_fresh _ _
  exact ⟨hfresh, calls_noneWaits hfresh _ _, by decide +kernel, by decide +kernel,
    by decide +kernel, by decide +kernel⟩

end Debugger

end QuantumDebug
