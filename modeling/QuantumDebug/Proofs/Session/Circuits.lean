import QuantumDebug.Proofs.Session.Configuration
import QuantumDebug.Proofs.Session.Parts
import QuantumDebug.Proofs.Session.Scripted

/-!
Whether circuits are shown, and what the engine is told of it. Once they are shown they are shown
for good, but a launch puts its own configuration in force: if it does not ask for circuits that
have been asked for before, the engine is told that there are none to be shown until the client
looks at variables again.
-/

namespace QuantumDebug

open World

variable {S : Surroundings}

/-- Whatever is loaded is loaded with the word that circuits are shown or not. -/
def Effect.Tells (shown : Bool) : Effect → Prop
  | .engine (.loadProgram config) => config.visualizationEnabled = shown
  | _ => True

lemma Effect.Unloading.tells {e : Effect} (h : e.Unloading) (shown : Bool) : e.Tells shown := by
  unfold Effect.Tells
  split
  · exact absurd rfl (h _)
  · trivial

/-! ### Parts of a call -/

lemma Visualization.update_enabled (v : Visualization) (failure : Option EngineError)
    (w : World S) : (v.update failure w).1.enabled = v.enabled := by
  unfold Visualization.update
  split <;> rfl

lemma runStep_enabled (action : StepAction) (armed : List Int) (v : Visualization) (w : World S) :
    (runStep action armed v w).2.1.enabled = v.enabled :=
  v.update_enabled _ _

lemma runStep_tells (action : StepAction) (armed : List Int) (v : Visualization) (w : World S)
    (shown : Bool) : w.Leads (Effect.Tells shown) (runStep action armed v w).2.2 :=
  (runStep_unloading action armed v w).mono fun _ he => he.tells shown

lemma Program.load_tells (p : Program) (w : World S) :
    w.Leads (Effect.Tells p.config.visualizationEnabled) (p.load w).2.2 :=
  p.load_leads_of w rfl fun _ he => he.tells _

lemma tells_keptByShots : KeptByShots (S := S) fun s s' =>
    (s'.2.1.enabled = s.2.1.enabled ∧ s'.1.config = s.1.config) ∧
      s.2.2.Leads (Effect.Tells s.1.config.visualizationEnabled) s'.2.2 where
  refl _ := ⟨⟨rfl, rfl⟩, .refl _⟩
  trans h h' := ⟨⟨h'.1.1.trans h.1.1, h'.1.2.trans h.1.2⟩, h.2.trans (h.1.2 ▸ h'.2)⟩
  run _ v w := ⟨⟨runStep_enabled .continue [] v w, rfl⟩, runStep_tells .continue [] v w _⟩
  report _ _ w text := ⟨⟨rfl, rfl⟩, w.output_leads .console text fun _ => trivial⟩
  load p _ w := ⟨⟨rfl, (p.load_keeps w).1⟩, p.load_tells w⟩

namespace Debugger

/-- From one session to another nothing changes in the configuration and in whether circuits are
shown, and the engine is told what the configuration says. -/
structure Holds (d d' : Debugger S) : Prop where
  shown : d'.view.enabled = d.view.enabled
  config : d'.program.config = d.program.config
  leads : d.world.Leads (Effect.Tells d.program.config.visualizationEnabled) d'.world

lemma holds_kept : Kept (S := S) Holds where
  refl d := ⟨rfl, rfl, .refl _⟩
  trans h₁ h₂ :=
    ⟨h₂.shown.trans h₁.shown, h₂.config.trans h₁.config, h₁.leads.trans (h₁.config ▸ h₂.leads)⟩
  send d m := by
    obtain ⟨ok, -, heq⟩ := d.send_ok m
    rw [heq]
    exact ⟨rfl, rfl, .play (e := .message m ok) trivial _⟩
  closed d code := ⟨rfl, rfl, .play (e := .telemetry (.sessionEnd code)) trivial _⟩
  ran d action := ⟨runStep_enabled _ _ _ _, rfl, runStep_tells _ _ _ _ _⟩
  shot d := by
    obtain ⟨⟨hshown, hconfig⟩, leads⟩ := tells_keptByShots.runShotsLeft
      (max d.program.config.shotCount 1) (max d.program.config.shotCount 1) d.program d.view d.world
    exact ⟨hshown, hconfig, leads⟩
  reloaded d := ⟨rfl, (d.program.load_keeps d.world).1, d.program.load_tells d.world⟩
  noted d _ _ _ := ⟨rfl, rfl, .refl _⟩

/-! ### One call -/

end Debugger

def Call.inspects (c : Call) : Bool :=
  match c.request?.map Request.command with
  | some (.variables _) => true
  | _ => false

namespace Debugger

def opens (d : Debugger S) (c : Call) : Bool :=
  match c.request?.map Request.command with
  | some (.variables reference) => d.inspector.scope? reference == some .circuit
  | _ => false

section Call

variable {d : Debugger S}

/-- What the engine is told about circuits. -/
def stated (d : Debugger S) : Bool := d.program.config.visualizationEnabled

/-- Whether a call asks for circuits: it is a launch that does and that is taken up, or it looks into
the circuit. -/
def asksFor (d : Debugger S) (c : Call) : Bool :=
  (d.takes? c).any (·.visualizationEnabled) || d.opens c

lemma looked_enabled (d : Debugger S) (reference : Int) :
    (d.looked reference).view.enabled =
      (d.view.enabled || d.inspector.scope? reference == some .circuit) := by
  have hview : (d.looked reference).view =
      (d.inspector.lookInto reference d.view d.world).2.1 := by
    rw [looked, rememberView_eq]
  rw [hview, Inspector.lookInto]
  rcases hscope : d.inspector.scope? reference with _ | _ | _ | _
  · simp
  · simp
  · simp
  · show (d.view.enable.update none d.world).1.enabled = _
    rw [Visualization.update_enabled]
    simp [Visualization.enable]

lemma looked_stated (d : Debugger S) (reference : Int) :
    (d.looked reference).stated = (d.stated || (d.looked reference).view.enabled) := by
  simp only [stated, looked, rememberView_eq]
  cases (d.inspector.lookInto reference d.view d.world).2.1.enabled <;> simp

lemma opens_of_passes {c : Call} (passes : c.inspects = false) : d.opens c = false := by
  unfold Call.inspects at passes
  unfold opens
  split at passes
  · simp at passes
  · rfl

/-- What a call can decide about circuits. -/
inductive Decides (d : Debugger S) (c : Call) : Debugger S → Prop where
  | takes {config : RunConfiguration} (takes : d.takes? c = some config)
      (passes : c.inspects = false) : Decides d c (d.configure config)
  | looks {reference : Int} (untaken : d.takes? c = none)
      (asks : c.request?.map Request.command = some (.variables reference)) :
      Decides d c (d.looked reference)
  | nothing (untaken : d.takes? c = none) (passes : c.inspects = false) : Decides d c d

lemma begun_holds (d : Debugger S) {c : Command} (noLaunch : ∀ noDebug data, c ≠ .launch noDebug data)
    (noLook : ∀ reference, c ≠ .variables reference) : d.Holds (d.begun c) := by
  have leads := (d.begun_leads c).mono fun _ he =>
    (Effect.unloading_of_not_runs he.not_runs).tells d.program.config.visualizationEnabled
  cases c with
  | launch noDebug data => exact absurd rfl (noLaunch noDebug data)
  | «variables» reference => exact absurd rfl (noLook reference)
  | setBreakpoints source requested => exact ⟨rfl, (d.program.setBreakpoints_keeps _ _ _).1, leads⟩
  | breakpointLocations source requested =>
    have heq := d.consulted_eq source requested
    exact ⟨congrArg (·.view.enabled) heq, congrArg (·.program.config) heq, leads⟩
  | _ => exact ⟨rfl, rfl, leads⟩

/-- After what a call decides nothing about circuits changes any more. -/
lemma call_decides (d : Debugger S) (c : Call) :
    ∃ d', d.Decides c d' ∧ d'.Holds (d.call c).2 := by
  cases c with
  | resume now => exact ⟨d, .nothing rfl rfl, holds_kept.resume d now⟩
  | request now later r =>
    have holds := holds_kept.handle d now later r
    have hcommand : (Call.request now later r).request?.map Request.command = some r.command := rfl
    by_cases looks : ∃ reference, r.command = .variables reference
    · obtain ⟨reference, command⟩ := looks
      rw [command] at holds hcommand
      exact ⟨d.looked reference, .looks (takes?_of_command (by simp [command])) hcommand, holds⟩
    have noLook (reference : Int) : r.command ≠ .variables reference := not_exists.mp looks reference
    have passes : (Call.request now later r).inspects = false := by
      unfold Call.inspects
      split
      · rename_i reference command
        exact absurd (Option.some.inj command) (noLook reference)
      · rfl
    by_cases launches : ∃ noDebug data, r.command = .launch noDebug data
    · obtain ⟨noDebug, data, command⟩ := launches
      rw [command] at holds hcommand
      dsimp only [begun] at holds
      rcases accepted : d.accepted? noDebug data with e | config
      · rw [accepted] at holds
        have untaken : d.takes? (.request now later r) = none := by
          simp [takes?, hcommand, accepted, Except.toOption]
        exact ⟨d, .nothing untaken passes, holds⟩
      · rw [accepted] at holds
        exact ⟨d.configure config, .takes (takes?_of_asks hcommand accepted) passes, holds⟩
    · have noLaunch (noDebug : Option Bool) (data : Option Json) :
          r.command ≠ .launch noDebug data := fun h => launches ⟨noDebug, data, h⟩
      exact ⟨d, .nothing (takes?_of_command noLaunch) passes,
        holds_kept.trans (d.begun_holds noLaunch noLook) holds⟩

lemma call_enabled (d : Debugger S) (c : Call) :
    (d.call c).2.view.enabled = (d.view.enabled || d.asksFor c) := by
  obtain ⟨d', decides, holds⟩ := d.call_decides c
  rw [holds.shown, asksFor]
  cases decides with
  | takes takes passes => rw [configure_shows takes, shows, opens_of_passes passes, Bool.or_false]
  | looks untaken asks => simp [looked_enabled, untaken, opens, asks]
  | nothing untaken passes => simp [untaken, opens_of_passes passes]

/-- What the engine is told after a call is what the launch that the call takes up says, or else
what it was told before, unless a look at variables finds that circuits are shown. -/
lemma call_stated (d : Debugger S) (c : Call) :
    (d.call c).2.stated = ((d.takes? c).map (·.visualizationEnabled)).getD
      (d.stated || c.inspects && (d.view.enabled || d.asksFor c)) := by
  obtain ⟨d', decides, holds⟩ := d.call_decides c
  rw [stated, holds.config, asksFor]
  cases decides with
  | takes takes passes =>
    rw [takes]
    rfl
  | @looks reference untaken asks =>
    have hlooked := d.looked_stated reference
    rw [looked_enabled, stated] at hlooked
    simp [hlooked, untaken, opens, asks, Call.inspects]
  | nothing untaken passes => simp [untaken, passes, stated]

lemma call_tells (d : Debugger S) (c : Call) : ∀ e ∈ d.effects c, e.Tells (d.call c).2.stated := by
  obtain ⟨d', decides, holds⟩ := d.call_decides c
  have before : d.world.Leads Effect.Unloading d'.world := by
    cases decides with
    | takes => exact .play (e := .telemetry _) (Effect.unloading_of_not_runs id) _
    | @looks reference =>
      exact (d.begun_leads (.variables reference)).mono fun _ he =>
        Effect.unloading_of_not_runs he.not_runs
    | nothing => exact .refl _
  have hstated : d'.program.config.visualizationEnabled = (d.call c).2.stated := by
    rw [stated, holds.config]
  obtain ⟨es, hes, hworld⟩ := (before.mono fun _ he => he.tells _).trans
    (hstated ▸ holds.leads)
  rw [effects_of_world hworld]
  exact hes

/-! ### Runs -/

/-- Whether a call puts a configuration in force that does not ask for the circuits that are
shown. -/
def overrules (d : Debugger S) (c : Call) : Bool :=
  d.view.enabled && (d.takes? c).any (!·.visualizationEnabled)

/-- Whether a call says anew in the configuration whether circuits are shown. -/
def restates (d : Debugger S) (c : Call) : Bool := (d.takes? c).isSome || c.inspects

/-- A launch that was taken up did not ask for the circuits that were shown, and nothing has been
said of them since. -/
def Overruled (d : Debugger S) (cs : List Call) : Prop :=
  Since (fun earlier c => (d.calls earlier).overrules c = true)
    (fun earlier c => (d.calls earlier).restates c = true) cs

def AskedFor (d : Debugger S) (cs : List Call) : Prop :=
  ∃ earlier c later, cs = earlier ++ c :: later ∧ (d.calls earlier).asksFor c = true

lemma askedFor_snoc {cs : List Call} {c : Call} :
    d.AskedFor (cs ++ [c]) ↔ d.AskedFor cs ∨ (d.calls cs).asksFor c = true := by
  constructor
  · rintro ⟨earlier, c', later, heq, hasks⟩
    obtain ⟨rfl, rfl, -⟩ | ⟨later, -, rfl⟩ := snoc_eq_append_cons.mp heq
    · exact .inr hasks
    · exact .inl ⟨earlier, c', later, rfl, hasks⟩
  · rintro (⟨earlier, c', later, rfl, hasks⟩ | hasks)
    · exact ⟨earlier, c', later ++ [c], by simp, hasks⟩
    · exact ⟨cs, c, [], rfl, hasks⟩

/-- What holds of circuits after calls made one after another. -/
structure Showing (d : Debugger S) (cs : List Call) : Prop where
  /-- They are shown if a call has asked for them, be it a launch or a look into the circuit. -/
  asked : (d.calls cs).view.enabled = true ↔ d.AskedFor cs
  /-- Once they are shown they are shown for good. -/
  lasting : (d.calls cs).view.enabled = true →
    ∀ later, (d.calls (cs ++ later)).view.enabled = true
  /-- The configuration does not say that they are shown unless they are. -/
  truthful : (d.calls cs).stated = true → (d.calls cs).view.enabled = true
  /-- It says so if they are, unless a launch has overruled that. -/
  agrees : (d.calls cs).stated = (d.calls cs).view.enabled ↔ ¬ d.Overruled cs
  /-- It says so from then on unless a launch overrules it. -/
  off : ∀ c, (d.calls cs).stated = true →
    ((d.calls (cs ++ [c])).stated = false ↔ (d.calls cs).overrules c = true)
  /-- What the engine is told when it loads the program is so under the same condition. -/
  loads : ∀ c config, .engine (.loadProgram config) ∈ (d.calls cs).effects c →
    (config.visualizationEnabled = (d.calls (cs ++ [c])).view.enabled ↔ ¬ d.Overruled (cs ++ [c]))

lemma calls_askedFor (h : d.Fresh) (cs : List Call) :
    (d.calls cs).view.enabled = true ↔ d.AskedFor cs := by
  induction cs using List.reverseRecOn with
  | nil =>
    obtain ⟨w, profile, timeout, -, rfl⟩ := h
    simp [AskedFor, start, Visualization.initial]
  | append_singleton cs c ih =>
    rw [calls_snoc, call_enabled, Bool.or_eq_true, ih, askedFor_snoc]

lemma calls_lasting {cs : List Call} (h : (d.calls cs).view.enabled = true) (later : List Call) :
    (d.calls (cs ++ later)).view.enabled = true := by
  induction later using List.reverseRecOn with
  | nil => rwa [List.append_nil]
  | append_singleton later c ih => rw [← List.append_assoc, calls_snoc, call_enabled, ih, Bool.true_or]

lemma call_true (h : d.stated = true → d.view.enabled = true) (c : Call) :
    (d.call c).2.stated = true → (d.call c).2.view.enabled = true := by
  rw [call_stated, call_enabled]
  rcases htakes : d.takes? c with _ | config
  · cases hstated : d.stated <;> simp_all
  · intro hshown
    have hasks : d.asksFor c = true := by
      simp only [Option.map_some, Option.getD_some] at hshown
      simp [asksFor, htakes, hshown]
    rw [hasks, Bool.or_true]

lemma opens_of_takes {c : Call} {config : RunConfiguration} (h : d.takes? c = some config) :
    d.opens c = false := by
  obtain ⟨now, later, r, noDebug, data, rfl, command, -⟩ := takes?_eq_some h
  simp [opens, Call.request?, command]

lemma call_agrees (h : d.stated = true → d.view.enabled = true) (c : Call) :
    (d.call c).2.stated = (d.call c).2.view.enabled ↔
      ¬ (d.overrules c = true ∨ d.stated ≠ d.view.enabled ∧ d.restates c = false) := by
  rw [call_stated, call_enabled, overrules, restates, asksFor]
  rcases htakes : d.takes? c with _ | config
  · rcases hinspects : c.inspects with _ | _
    · simp [opens_of_passes hinspects]
    · cases hstated : d.stated <;> simp_all
  · rw [opens_of_takes htakes]
    cases config.visualizationEnabled <;> simp

lemma calls_true (h : d.Fresh) (cs : List Call) :
    (d.calls cs).stated = true → (d.calls cs).view.enabled = true := by
  induction cs using List.reverseRecOn with
  | nil =>
    obtain ⟨w, profile, timeout, -, rfl⟩ := h
    simp [start, stated, Program.unloaded, RunConfiguration.empty]
  | append_singleton cs c ih =>
    rw [calls_snoc]
    exact call_true ih c

lemma calls_overruled (h : d.Fresh) (cs : List Call) :
    (d.calls cs).stated = (d.calls cs).view.enabled ↔ ¬ d.Overruled cs := by
  induction cs using List.reverseRecOn with
  | nil =>
    obtain ⟨w, profile, timeout, -, rfl⟩ := h
    simp [start, stated, Program.unloaded, RunConfiguration.empty, Visualization.initial, Overruled]
  | append_singleton cs c ih =>
    rw [calls_snoc, call_agrees (calls_true h cs), Overruled, since_snoc, Bool.not_eq_true, Ne, ih,
      not_not]
    rfl

lemma call_off (h : d.stated = true → d.view.enabled = true) (hstated : d.stated = true) (c : Call) :
    (d.call c).2.stated = false ↔ d.overrules c = true := by
  rw [call_stated, overrules, h hstated, hstated]
  cases d.takes? c <;> simp

/-- **Circuits are shown for good, and the engine is told so unless a launch overrules it.** -/
theorem calls_showing (h : d.Fresh) (cs : List Call) : Showing d cs where
  asked := calls_askedFor h cs
  lasting := calls_lasting
  truthful := calls_true h cs
  agrees := calls_overruled h cs
  off c hstated := by
    rw [calls_snoc]
    exact call_off (calls_true h cs) hstated c
  loads c config hload := by
    have tells : config.visualizationEnabled = ((d.calls cs).call c).2.stated :=
      (d.calls cs).call_tells c _ hload
    rw [tells, ← calls_snoc]
    exact calls_overruled h (cs ++ [c])

end Call

/-- A look into the circuit before a launch, which asks for circuits or does not. -/
def looksFirst (shown : Bool) : List Call :=
  [.request 0 0 ⟨1, .scopes⟩, .request 1 1 ⟨2, .variables 3⟩,
    .request 2 2 (.circuitLaunch 3 shown)]

theorem looksFirst_showing :
    (scripted [] ⟨[], []⟩).Fresh ∧ Showing (scripted [] ⟨[], []⟩) (looksFirst true) ∧
      ((scripted [] ⟨[], []⟩).calls (looksFirst true)).stated = true := by
  have hfresh : (scripted [] ⟨[], []⟩).Fresh := scripted_fresh _ _
  exact ⟨hfresh, calls_showing hfresh _, by decide +kernel⟩

/-- A launch that does not ask for circuits is in force although they have been asked for, and the
engine is told that they are not to be shown although they are. -/
theorem looksFirst_overruled :
    let d := scripted [] ⟨[], []⟩
    d.Fresh ∧ (d.calls ((looksFirst false).take 2)).stated = true ∧
      (d.calls (looksFirst false)).view.enabled = true ∧
      (d.calls (looksFirst false)).stated = false ∧
      .engine (.loadProgram .plain) ∈ (d.calls (looksFirst false)).world.trace ∧
      RunConfiguration.plain.visualizationEnabled = false := by
  exact ⟨scripted_fresh _ _, by decide +kernel⟩

end Debugger

end QuantumDebug
