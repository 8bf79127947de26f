import QuantumDebug.Proofs.Session.Circuits

/-!
The panel that shows circuits, as it is sent one update after another. Until it has taken one every
update asks for it to come to the front, and after that none does. Once circuits have been asked
for, every run of the program is followed by one update, and every look into the circuit makes one.
-/

namespace QuantumDebug

open World

variable {S : Surroundings}

/-! ### Effects on the panel -/

def panelTook (es : List Effect) : Bool :=
  es.any fun
    | .panel _ accepted => accepted
    | _ => false

@[simp] lemma panelTook_append (es fs : List Effect) :
    panelTook (es ++ fs) = (panelTook es || panelTook fs) :=
  List.any_append

lemma panelTook_iff {es : List Effect} : panelTook es = true ↔ ∃ u, .panel u true ∈ es := by
  rw [panelTook, List.any_eq_true]
  constructor
  · rintro ⟨e, he, htook⟩
    cases e with
    | panel u accepted =>
      obtain rfl : accepted = true := htook
      exact ⟨u, he⟩
    | _ => simp at htook
  · rintro ⟨u, hu⟩
    exact ⟨_, hu, rfl⟩

@[simp] lemma panelTook_engine (call : EngineCall) (es : List Effect) :
    panelTook (.engine call :: es) = panelTook es := rfl

/-- Neither runs the program nor updates the panel. -/
@[simp] def Effect.Undrawn : Effect → Prop
  | .engine (.eval _ _) => False
  | .panel _ _ => False
  | _ => True

lemma Effect.Surveys.undrawn {e : Effect} (h : e.Surveys) : e.Undrawn := by
  obtain ⟨source, rfl⟩ := h
  trivial

def Effect.Writes (e : Effect) : Prop := ∃ text ok, e = .message (.event (.output .stdout text)) ok

lemma Effect.Writes.undrawn {e : Effect} (h : e.Writes) : e.Undrawn := by
  obtain ⟨text, ok, rfl⟩ := h
  trivial

lemma panelTook_undrawn {es : List Effect} (h : ∀ e ∈ es, e.Undrawn) : panelTook es = false := by
  rw [panelTook, List.any_eq_false]
  intro e he
  have hundrawn := h e he
  cases e with
  | panel u accepted => exact hundrawn.elim
  | _ => simp

/-- Brings the panel to the front: an update that the panel takes and that asks for it. -/
def Effect.brings : Effect → Bool
  | .panel u accepted => accepted && u.reveal
  | _ => false

/-- Every update asks for the panel to come to the front unless the panel has taken one already,
before these effects or among them. -/
def Reveals (before : Bool) (es : List Effect) : Prop :=
  ∀ pre u accepted post, es = pre ++ .panel u accepted :: post →
    u.reveal = !(before || panelTook pre)

section Reveals

variable {before : Bool} {es fs : List Effect}

lemma Reveals.of_undrawn (h : ∀ e ∈ es, e.Undrawn) : Reveals before es := by
  rintro pre u accepted post rfl
  exact (h (.panel u accepted) (by simp)).elim

lemma Reveals.engine {call : EngineCall} (h : Reveals before es) :
    Reveals before (.engine call :: es) := by
  intro pre u accepted post heq
  cases pre with
  | nil => simp at heq
  | cons e pre =>
    obtain ⟨rfl, hes⟩ := List.cons.inj heq
    exact h pre u accepted post hes

lemma Reveals.append (hes : Reveals before es) (hfs : Reveals (before || panelTook es) fs) :
    Reveals before (es ++ fs) := by
  intro pre u accepted post heq
  rcases List.append_eq_append_iff.mp heq with ⟨mid, rfl, hmid⟩ | ⟨mid, rfl, hmid⟩
  · rw [hfs mid u accepted post hmid, panelTook_append, Bool.or_assoc]
  · cases mid with
    | nil =>
      rw [hfs [] u accepted post hmid.symm]
      simp [panelTook]
    | cons e mid =>
      obtain ⟨rfl, rfl⟩ : .panel u accepted = e ∧ post = mid ++ fs := by simpa using hmid
      exact hes pre u accepted mid rfl

lemma Reveals.one {u : PanelUpdate} (h : u.reveal = !before) (accepted : Bool) :
    Reveals before [.engine .circuit, .panel u accepted] := by
  intro pre u' accepted' post heq
  obtain ⟨rfl, rfl, rfl⟩ : pre = [.engine .circuit] ∧ u' = u ∧ accepted' = accepted := by
    rcases pre with _ | ⟨e, _ | ⟨e', pre⟩⟩ <;> simp_all
  simpa [panelTook] using h

lemma Reveals.tail {e : Effect} (h : Reveals before (e :: es)) :
    Reveals (before || panelTook [e]) es := by
  rintro pre u accepted post rfl
  have hcons : panelTook (e :: pre) = (panelTook [e] || panelTook pre) := panelTook_append [e] pre
  rw [h (e :: pre) u accepted post rfl, hcons, Bool.or_assoc]

/-- One update at most brings the panel to the front, and none once it has been there. -/
lemma Reveals.countP_le (h : Reveals before es) :
    es.countP Effect.brings ≤ if before then 0 else 1 := by
  induction es generalizing before with
  | nil => simp
  | cons e es ih =>
    have hrest := ih h.tail
    rw [List.countP_cons]
    cases e with
    | panel u accepted =>
      have hreveal : u.reveal = !(before || panelTook []) := h [] u accepted es rfl
      cases before <;> cases accepted <;> simp_all [panelTook, Effect.brings]
    | _ => simpa [panelTook, Effect.brings] using hrest

end Reveals

/-- Every run is followed by what the program has written and then by one update of the panel, and
nothing else updates the panel. -/
inductive Drawn : List Effect → Prop where
  | nil : Drawn []
  | other {e : Effect} {es : List Effect} (undrawn : e.Undrawn) (rest : Drawn es) : Drawn (e :: es)
  | run (action : StepAction) (armed : List Int) {texts es : List Effect}
      (writes : ∀ e ∈ texts, e.Writes) (u : PanelUpdate) (accepted : Bool) (rest : Drawn es) :
      Drawn (.engine (.eval action armed) :: (texts ++ .engine .circuit :: .panel u accepted :: es))

lemma Drawn.of_undrawn {es fs : List Effect} (h : ∀ e ∈ es, e.Undrawn) (rest : Drawn fs) :
    Drawn (es ++ fs) := by
  induction es with
  | nil => exact rest
  | cons e es ih =>
    obtain ⟨first, others⟩ := List.forall_mem_cons.mp h
    exact .other first (ih others)

lemma Drawn.append {es fs : List Effect} (hes : Drawn es) (hfs : Drawn fs) : Drawn (es ++ fs) := by
  induction hes with
  | nil => exact hfs
  | other undrawn _ ih => exact .other undrawn ih
  | run action armed writes u accepted _ ih =>
    rw [List.cons_append, List.append_assoc]
    exact .run action armed writes u accepted ih

/-! ### Parts of a call -/

/-- What effects make of what is known of the panel, and how they keep the panel in step. -/
structure Draws (v : Visualization) (es : List Effect) (v' : Visualization) : Prop where
  enabled : v'.enabled = v.enabled
  revealed : v'.revealed = (v.revealed || panelTook es)
  reveals : Reveals v.revealed es
  drawn : v.enabled = true → Drawn es

section Draws

variable {v v' v'' : Visualization} {es fs : List Effect}

lemma Draws.of_undrawn (v : Visualization) (h : ∀ e ∈ es, e.Undrawn) : Draws v es v where
  enabled := rfl
  revealed := by rw [panelTook_undrawn h, Bool.or_false]
  reveals := .of_undrawn h
  drawn _ := List.append_nil es ▸ .of_undrawn h .nil

lemma Draws.append (hes : Draws v es v') (hfs : Draws v' fs v'') : Draws v (es ++ fs) v'' where
  enabled := hfs.enabled.trans hes.enabled
  revealed := by rw [hfs.revealed, hes.revealed, panelTook_append, Bool.or_assoc]
  reveals := hes.reveals.append (hes.revealed ▸ hfs.reveals)
  drawn henabled := (hes.drawn henabled).append (hfs.drawn (hes.enabled.trans henabled))

end Draws

/-- The panel is either left alone or sent one update; what is known of it changes only if it takes
the update. -/
inductive Visualization.Updates (v : Visualization) (w : World S) :
    Visualization × World S → Prop where
  | idle (unwanted : v.wanted w = false) : Updates v w (v, w)
  | sent (u : PanelUpdate) (accepted : Bool) (reveal : u.reveal = !v.revealed) :
      Updates v w ({ v with revealed := v.revealed || accepted },
        w.playAll [.engine .circuit, .panel u accepted])

lemma Visualization.update_updates (v : Visualization) (failure : Option EngineError)
    (w : World S) : v.Updates w (v.update failure w) := by
  unfold update
  split
  · exact .sent _ _ rfl
  · rename_i unwanted
    exact .idle (Bool.eq_false_iff.mpr unwanted)

lemma Visualization.update_refused {v : Visualization} {failure : Option EngineError} {w : World S}
    {u : PanelUpdate}
    (h : (v.update failure w).2 = w.playAll [.engine .circuit, .panel u false]) :
    (v.update failure w).1 = v := by
  have updates := v.update_updates failure w
  generalize v.update failure w = updated at h updates ⊢
  cases updates with
  | idle => rfl
  | sent u' accepted reveal =>
    have htrace := congrArg World.trace h
    rw [trace_playAll, trace_playAll] at htrace
    obtain ⟨-, rfl⟩ : u' = u ∧ accepted = false := by simpa using htrace
    simp

/-- From what is known of the panel in a world to what is known in another. -/
def Redraws (s s' : Visualization × World S) : Prop :=
  ∃ es, s'.2 = s.2.playAll es ∧ Draws s.1 es s'.1

lemma Redraws.of_leads {v : Visualization} {w w' : World S} (h : w.Leads Effect.Undrawn w') :
    Redraws (v, w) (v, w') := by
  obtain ⟨es, undrawn, hworld⟩ := h
  exact ⟨es, hworld, .of_undrawn v undrawn⟩

lemma Redraws.trans {s₁ s₂ s₃ : Visualization × World S} (h : Redraws s₁ s₂) (h' : Redraws s₂ s₃) :
    Redraws s₁ s₃ := by
  obtain ⟨es, hworld, hes⟩ := h
  obtain ⟨fs, hworld', hfs⟩ := h'
  exact ⟨es ++ fs, by rw [hworld', hworld, playAll_append], hes.append hfs⟩

lemma runStep_redraws (action : StepAction) (armed : List Int) (v : Visualization) (w : World S) :
    Redraws (v, w) (runStep action armed v w).2 := by
  let asked := w.play (.engine (.eval action armed))
  obtain ⟨texts, writes, hforward⟩ := asked.forward_leads (P := Effect.Writes)
    (S.engine.eval action armed w.engine).1.1 fun text ok => ⟨text, ok, rfl⟩
  have hrun : (runStep action armed v w).2 =
      v.update (w.outcome action armed).failure (asked.playAll texts) := by
    rw [← hforward]
    rfl
  have undrawn : ∀ e ∈ texts, e.Undrawn := fun e he => (writes e he).undrawn
  have updates := v.update_updates (w.outcome action armed).failure (asked.playAll texts)
  rw [hrun]
  generalize v.update (w.outcome action armed).failure (asked.playAll texts) = updated at updates ⊢
  cases updates with
  | idle unwanted =>
    have hidden : v.enabled = false := (Bool.or_eq_false_iff.mp unwanted).1
    exact ⟨.engine (.eval action armed) :: texts, rfl, {
      enabled := rfl
      revealed := by rw [panelTook_engine, panelTook_undrawn undrawn, Bool.or_false]
      reveals := .engine (.of_undrawn undrawn)
      drawn := by simp [hidden] }⟩
  | sent u accepted reveal =>
    refine ⟨.engine (.eval action armed) :: (texts ++ [.engine .circuit, .panel u accepted]), ?_, {
      enabled := rfl
      revealed := by
        rw [panelTook_engine, panelTook_append, panelTook_undrawn undrawn]
        simp [panelTook]
      reveals := .engine ((Reveals.of_undrawn undrawn).append ?_)
      drawn := fun _ => .run action armed writes u accepted .nil }⟩
    · exact (playAll_append asked texts _).symm
    · rw [panelTook_undrawn undrawn, Bool.or_false]
      exact .one reveal accepted

lemma Program.load_undrawn (p : Program) (w : World S) : w.Leads Effect.Undrawn (p.load w).2.2 := by
  have asked : w.Leads Effect.Undrawn (w.play (.engine (.loadProgram p.config))) := .play trivial w
  exact asked.trans ((p.load_surveys w).mono fun _ => Effect.Surveys.undrawn)

lemma redraws_keptByShots : KeptByShots (S := S) fun s s' => Redraws s.2 s'.2 where
  refl s := .of_leads (.refl s.2.2)
  trans := .trans
  run _ v w := runStep_redraws .continue [] v w
  report _ _ w text := .of_leads (w.output_leads .console text fun _ => trivial)
  load p _ w := .of_leads (p.load_undrawn w)

lemma Inspector.lookInto_undrawn (i : Inspector) {reference : Int}
    (other : i.scope? reference ≠ some .circuit) (v : Visualization) (w : World S) :
    w.Leads Effect.Undrawn (i.lookInto reference v w).2.2 ∧ (i.lookInto reference v w).2.1 = v := by
  unfold Inspector.lookInto
  rcases hscope : i.scope? reference with _ | _ | _ | _
  · exact ⟨.refl w, rfl⟩
  · exact ⟨.play (e := .engine .localVariables) trivial w, rfl⟩
  · have asked : w.Leads Effect.Undrawn (w.play (.engine .quantumState)) := .play trivial w
    refine ⟨?_, rfl⟩
    simp only [Inspector.quantumState, quantumState_eq]
    cases (S.engine.quantumState w.engine).1 with
    | ok entries => exact asked.trans (.play (e := .telemetry (.quantumStateCaptured _)) trivial _)
    | error e => exact asked
  · exact absurd hscope other

namespace Debugger

lemma redraws_kept : Kept (S := S) fun d d' => Redraws (d.view, d.world) (d'.view, d'.world) where
  refl d := .of_leads (.refl d.world)
  trans := .trans
  send d m := by
    obtain ⟨ok, -, heq⟩ := d.send_ok m
    rw [heq]
    exact .of_leads (.play (e := .message m ok) trivial _)
  closed d code := .of_leads (.play (e := .telemetry (.sessionEnd code)) trivial _)
  ran d action := runStep_redraws action _ d.view d.world
  shot d := redraws_keptByShots.runShotsLeft _ _ d.program d.view d.world
  reloaded d := .of_leads (d.program.load_undrawn d.world)
  noted d _ _ _ := .of_leads (.refl d.world)

/-! ### Calls -/

lemma opens_iff {d : Debugger S} {c : Call} :
    d.opens c = true ↔
      ∃ now later r reference, c = .request now later r ∧ r.command = .variables reference ∧
        d.inspector.scope? reference = some .circuit := by
  constructor
  · intro h
    unfold opens at h
    cases c with
    | resume now => simp [Call.request?] at h
    | request now later r =>
      split at h
      · rename_i reference command
        exact ⟨now, later, r, reference, rfl, Option.some.inj command, eq_of_beq h⟩
      · simp at h
  · rintro ⟨now, later, r, reference, rfl, command, circuit⟩
    simp [opens, Call.request?, command, circuit]

lemma begun_undrawn {d : Debugger S} {now later : Nat} {r : Request}
    (passes : d.opens (.request now later r) = false) :
    d.world.Leads Effect.Undrawn (d.begun r.command).world ∧
      (d.begun r.command).view.revealed = d.view.revealed := by
  cases command : r.command with
  | launch noDebug data =>
    dsimp only [begun]
    cases d.accepted? noDebug data with
    | ok config =>
      refine ⟨.play (e := taken config) trivial _, ?_⟩
      dsimp only [configure]
      split <;> rfl
    | error e => exact ⟨.refl _, rfl⟩
  | setBreakpoints source requested =>
    exact ⟨(d.armed_surveys source requested).mono fun _ => Effect.Surveys.undrawn, rfl⟩
  | breakpointLocations source requested =>
    refine ⟨(d.consulted_surveys source requested).mono fun _ => Effect.Surveys.undrawn, ?_⟩
    exact congrArg (·.view.revealed) (d.consulted_eq source requested)
  | stackTrace => exact ⟨.play (e := .engine .stackFrames) trivial _, rfl⟩
  | «variables» reference =>
    have other : d.inspector.scope? reference ≠ some .circuit := fun circuit =>
      Bool.eq_false_iff.mp passes (opens_iff.mpr ⟨now, later, r, reference, rfl, command, circuit⟩)
    obtain ⟨leads, hview⟩ := d.inspector.lookInto_undrawn other d.view d.world
    dsimp only [begun]
    rw [looked, rememberView_eq]
    exact ⟨leads, congrArg Visualization.revealed hview⟩
  | terminate => exact ⟨.play (e := .engine .terminate) trivial _, rfl⟩
  | disconnect => exact ⟨.play (e := .engine .terminate) trivial _, rfl⟩
  | _ => exact ⟨.refl _, rfl⟩

lemma call_opens {d : Debugger S} {c : Call} (opens : d.opens c = true) :
    ∃ u accepted, u.reveal = !d.view.revealed ∧
      (d.call c).2.view.revealed = (d.view.revealed || accepted) ∧
      ∃ r ok, c.request? = some r ∧ d.effects c = [.engine .circuit, .panel u accepted,
        r.answer (.success (.variables [circuitVariable])) ok] := by
  obtain ⟨now, later, r, reference, rfl, command, circuit⟩ := opens_iff.mp opens
  have hlook : d.inspector.lookInto reference d.view d.world =
      ([circuitVariable], d.view.enable.update none d.world) := by
    rw [Inspector.lookInto, circuit]
  have hcall := d.call_lookInto now later command
  rw [hlook] at hcall
  have hview : (d.looked reference).view = (d.view.enable.update none d.world).1 := by
    rw [looked, rememberView_eq, hlook]
  have hworld : (d.looked reference).world = (d.view.enable.update none d.world).2 := by
    rw [looked, rememberView_eq, hlook]
  have updates := d.view.enable.update_updates none d.world
  generalize d.view.enable.update none d.world = updated at hview hworld updates
  cases updates with
  | idle unwanted => simp [Visualization.wanted, Visualization.enable] at unwanted
  | sent u accepted reveal =>
    obtain ⟨ok, -, hnext, heffects⟩ := call_responds hcall hworld
    refine ⟨u, accepted, reveal, ?_, r, ok, rfl, heffects⟩
    rw [hnext]
    exact congrArg Visualization.revealed hview

/-- Any other call leaves the panel alone at its beginning, and what it does after that tells what
becomes of the panel. -/
lemma call_draws {d : Debugger S} {c : Call} (passes : d.opens c = false) :
    ∃ es fs v, (∀ e ∈ es, e.Undrawn) ∧ d.effects c = es ++ fs ∧ v.revealed = d.view.revealed ∧
      Draws v fs (d.call c).2.view := by
  cases c with
  | resume now =>
    obtain ⟨fs, hworld, draws⟩ := redraws_kept.resume d now
    exact ⟨[], fs, d.view, by simp, effects_of_world hworld, rfl, draws⟩
  | request now later r =>
    obtain ⟨⟨es, undrawn, hbegun⟩, hrevealed⟩ := begun_undrawn passes
    obtain ⟨fs, hworld, draws⟩ := redraws_kept.handle d now later r
    refine ⟨es, fs, _, undrawn, effects_of_world ?_, hrevealed, draws⟩
    exact hworld.trans (by rw [hbegun, World.playAll_append])

lemma call_reveals (d : Debugger S) (c : Call) :
    (d.call c).2.view.revealed = (d.view.revealed || panelTook (d.effects c)) ∧
      Reveals d.view.revealed (d.effects c) := by
  cases opens : d.opens c with
  | true =>
    obtain ⟨u, accepted, reveal, hrevealed, r, ok, -, heffects⟩ := call_opens opens
    rw [heffects, hrevealed]
    refine ⟨by simp [panelTook, Request.answer], ?_⟩
    exact (Reveals.one reveal accepted).append (.of_undrawn (by simp [Request.answer]))
  | false =>
    obtain ⟨es, fs, v, undrawn, heffects, hrevealed, draws⟩ := call_draws opens
    have hnone : panelTook es = false := panelTook_undrawn undrawn
    rw [heffects, panelTook_append, hnone, Bool.false_or, ← hrevealed]
    refine ⟨draws.revealed, .append (.of_undrawn undrawn) ?_⟩
    rw [hnone, Bool.or_false]
    exact draws.reveals

/-! ### Runs -/

variable {d : Debugger S}

lemma calls_reveals (h : d.Fresh) (cs : List Call) :
    (d.calls cs).view.revealed = panelTook (d.calls cs).world.trace ∧
      Reveals false (d.calls cs).world.trace := by
  induction cs using List.reverseRecOn with
  | nil =>
    rw [calls_nil, h.trace]
    refine ⟨?_, .of_undrawn (by simp)⟩
    obtain ⟨w, profile, timeout, -, rfl⟩ := h
    rfl
  | append_singleton cs c ih =>
    obtain ⟨hrevealed, reveals⟩ := ih
    obtain ⟨hnext, hcall⟩ := (d.calls cs).call_reveals c
    rw [trace_calls_snoc, calls_snoc, panelTook_append, ← hrevealed]
    refine ⟨hnext, reveals.append ?_⟩
    rw [Bool.false_or, ← hrevealed]
    exact hcall

/-- The panel in a session, up to a call and in it. -/
structure KeepsPanel (d : Debugger S) (cs : List Call) : Prop where
  /-- An update asks for the panel to come to the front just if the panel has taken none before. -/
  reveals : ∀ pre u accepted post, (d.calls cs).world.trace = pre ++ .panel u accepted :: post →
    (u.reveal = true ↔ ∀ u', .panel u' true ∉ pre)
  /-- So one update at most that the panel takes brings it to the front. -/
  once : (d.calls cs).world.trace.countP Effect.brings ≤ 1
  /-- The session knows whether the panel has taken an update. -/
  known : (d.calls cs).view.revealed = true ↔ ∃ u, .panel u true ∈ (d.calls cs).world.trace
  /-- An update that the panel does not take has been tried, and that is all. -/
  refused : ∀ (v : Visualization) (failure : Option EngineError) (w : World S) (u : PanelUpdate),
    (v.update failure w).2 = w.playAll [.engine .circuit, .panel u false] →
    (v.update failure w).1 = v
  /-- Once circuits have been asked for, be it in the call itself, every run is followed by one
  update and nothing else makes one, -/
  drawn : ∀ c, d.AskedFor (cs ++ [c]) → (d.calls cs).opens c = false →
    Drawn ((d.calls cs).effects c)
  /-- except for a look into the circuit, which makes just one. -/
  opens : ∀ c, (d.calls cs).opens c = true → ∃ u accepted r ok, c.request? = some r ∧
    (d.calls cs).effects c = [.engine .circuit, .panel u accepted,
      r.answer (.success (.variables [circuitVariable])) ok]

/-- **The panel is brought to the front once**, and once circuits have been asked for it is kept in
step with every run. -/
theorem calls_keepPanel (h : d.Fresh) (cs : List Call) : KeepsPanel d cs := by
  obtain ⟨hrevealed, reveals⟩ := calls_reveals h cs
  refine ⟨fun pre u accepted post heq => ?_, reveals.countP_le, ?_,
    fun v failure w u => Visualization.update_refused, fun c asked passes => ?_, fun c opens => ?_⟩
  · rw [reveals pre u accepted post heq, Bool.false_or, Bool.not_eq_true', ← Bool.not_eq_true,
      panelTook_iff, not_exists]
  · rw [hrevealed, panelTook_iff]
  · obtain ⟨es, fs, v, undrawn, heffects, -, draws⟩ := call_draws passes
    have henabled := (calls_askedFor h (cs ++ [c])).mpr asked
    rw [calls_snoc, draws.enabled] at henabled
    rw [heffects]
    exact .of_undrawn undrawn (draws.drawn henabled)
  · obtain ⟨u, accepted, -, -, r, ok, request, heffects⟩ := call_opens opens
    exact ⟨u, accepted, r, ok, request, heffects⟩

end Debugger

/-- An engine that runs from a script, and a panel that takes no update until it has been sent so
many. -/
def Surroundings.reluctant : Surroundings where
  EngineState := Script
  PanelState := Nat
  ClientState := Unit
  engine := .telling ["a", "b"] (.ok .null)
  panel := ⟨fun _ => false, fun _ left => (left == 0, left - 1)⟩
  client := .attentive

namespace Debugger

def reluctant : Debugger .reluctant :=
  .start ⟨⟨[.ok []], List.replicate 3 (.ok .progressed)⟩, (2 : Nat), (), []⟩ "" 1000

/-- A look into the circuit, a launch that does not ask for circuits, and two steps. -/
def looksAndSteps : List Call :=
  [.request 0 0 ⟨1, .scopes⟩, .request 1 1 ⟨2, .variables 3⟩, .request 2 2 (.plainLaunch 3),
    .request 3 3 ⟨4, .configurationDone⟩, .request 4 4 ⟨5, .next⟩]

theorem reluctant_keepsPanel :
    reluctant.Fresh ∧ KeepsPanel reluctant looksAndSteps ∧
      reluctant.AskedFor (looksAndSteps ++ [.request 5 5 ⟨6, .next⟩]) ∧
      (reluctant.calls looksAndSteps).opens (.request 5 5 ⟨6, .next⟩) = false ∧
      (reluctant.calls (looksAndSteps ++ [.request 5 5 ⟨6, .next⟩])).world.trace.filterMap
        (fun
          | .panel u accepted => some (u.reveal, accepted)
          | _ => none) =
        [(true, false), (true, false), (true, true), (false, true)] := by
  have hfresh : reluctant.Fresh := ⟨_, _, _, rfl, rfl⟩
  exact ⟨hfresh, calls_keepPanel hfresh _, (calls_askedFor hfresh _).mp (by decide +kernel),
    by decide +kernel, by decide +kernel⟩

end Debugger

end QuantumDebug
