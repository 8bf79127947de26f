import QuantumDebug.Proofs.Session.Likeness
import QuantumDebug.Proofs.Session.Scripted

/-!
Showing circuits is nobody else's business. Two sessions that are asked the same, with engines that
are the same but for their circuits and with any panels at all, tell the same story: nothing that
the client, the engine or the records get to know depends on whether circuits are shown, on what is
in them, or on what the panel makes of them.
-/

namespace QuantumDebug

open World

variable {S T : Surroundings}

/-! ### What is asked -/

def LaunchArguments.withoutCircuit (a : LaunchArguments) : LaunchArguments :=
  { a with showCircuit := false }

/-- Data of a launch that ask for the same apart from circuits. -/
def SameLaunch (j j' : Json) : Prop :=
  (LaunchArguments.decoder j').map LaunchArguments.withoutCircuit =
    (LaunchArguments.decoder j).map LaunchArguments.withoutCircuit

instance (j j' : Json) : Decidable (SameLaunch j j') := inferInstanceAs (Decidable (_ = _))

/-- Requests that differ at most in whether a launch asks for circuits. -/
inductive Request.Agrees : Request → Request → Prop where
  | same (r : Request) : Agrees r r
  | launch (seq : Int) (noDebug : Option Bool) {j j' : Json} (h : SameLaunch j j') :
      Agrees ⟨seq, .launch noDebug (some j)⟩ ⟨seq, .launch noDebug (some j')⟩

/-- Calls at the same times, which differ at most in whether a launch asks for circuits. -/
inductive Call.Agrees : Call → Call → Prop where
  | request (now later : Nat) {r r' : Request} (h : r.Agrees r') :
      Agrees (.request now later r) (.request now later r')
  | resume (now : Nat) : Agrees (.resume now) (.resume now)

lemma SameLaunch.takes {j j' : Json} (h : SameLaunch j j') (noDebug : Option Bool) :
    Takes RunConfiguration.Agrees (Debugger.launchConfiguration noDebug (some j))
      (Debugger.launchConfiguration noDebug (some j')) := by
  unfold SameLaunch at h
  simp only [Debugger.launchConfiguration]
  generalize LaunchArguments.decoder j = a at h
  generalize LaunchArguments.decoder j' = b at h
  rcases a with e | a <;> rcases b with e' | b <;> simp only [Except.map, reduceCtorEq] at h
  · obtain rfl := Except.error.inj h
    exact .refuses _
  · have h := Except.ok.inj h
    simp only [LaunchArguments.withoutCircuit, LaunchArguments.mk.injEq] at h
    obtain ⟨hprogram, hentry, hshots, hstop, htrace, -⟩ := h
    refine .accepts ⟨hprogram, hentry, ?_, rfl, hstop, htrace⟩
    simp only [RunConfiguration.ofLaunch, hshots]

/-! ### What is shared -/

/-- What becomes of an effect when the panel is left out of account: its updates and the questions
for a circuit are gone, and no configuration says whether circuits are shown. -/
def Effect.shared? : Effect → Option Effect
  | .panel _ _ => none
  | .engine .circuit => none
  | .engine (.loadProgram c) =>
    some (.engine (.loadProgram { c with visualizationEnabled := false }))
  | e => some e

def shared (es : List Effect) : List Effect := es.filterMap Effect.shared?

lemma shared_append (es fs : List Effect) : shared (es ++ fs) = shared es ++ shared fs :=
  List.filterMap_append

lemma RunConfiguration.Agrees.shared {c c' : RunConfiguration} (h : c.Agrees c') :
    (Effect.engine (.loadProgram c')).shared? = (Effect.engine (.loadProgram c)).shared? := by
  obtain ⟨hprogram, hentry, hshots, hdebug, hstop, htrace⟩ := h
  cases c
  cases c'
  simp_all [Effect.shared?]

/-- Engines that are the same but for their circuits: from related states they give the same answers
whether circuits are to be shown or not, and asking for a circuit leaves the states related. -/
structure Engine.Twins {σ τ : Type} (E : Engine σ) (F : Engine τ) (R : σ → τ → Prop) : Prop where
  loadProgram {s : σ} {t : τ} (h : R s t) {c c' : RunConfiguration} (hc : c.Agrees c') :
    Same R (E.loadProgram c s) (F.loadProgram c' t)
  breakpoints {s : σ} {t : τ} (h : R s t) (source : Url) :
    Same R (E.breakpoints source s) (F.breakpoints source t)
  eval {s : σ} {t : τ} (h : R s t) (action : StepAction) (armed : List Int) :
    Same R (E.eval action armed s) (F.eval action armed t)
  stackFrames {s : σ} {t : τ} (h : R s t) : Same R (E.stackFrames s) (F.stackFrames t)
  localVariables {s : σ} {t : τ} (h : R s t) : Same R (E.localVariables s) (F.localVariables t)
  quantumState {s : σ} {t : τ} (h : R s t) : Same R (E.quantumState s) (F.quantumState t)
  terminate {s : σ} {t : τ} (h : R s t) : R (E.terminate s) (F.terminate t)
  circuit_left {s : σ} {t : τ} (h : R s t) : R (E.circuit s).2 t
  circuit_right {s : σ} {t : τ} (h : R s t) : R s (F.circuit t).2

/-- Worlds with related engines in which the same has been done, the panel left out of account. -/
structure World.Shares (R : S.EngineState → T.EngineState → Prop) (w : World S) (w' : World T) :
    Prop where
  engine : R w.engine w'.engine
  trace : shared w'.trace = shared w.trace

namespace World.Shares

variable {R : S.EngineState → T.EngineState → Prop} {w : World S} {w' : World T}

lemma note (h : Shares R w w') {s : S.EngineState} {t : T.EngineState} (hengine : R s t)
    {e e' : Effect} (hshared : e'.shared? = e.shared?) :
    Shares R (({ w with engine := s } : World S).note e)
      (({ w' with engine := t } : World T).note e') where
  engine := hengine
  trace := by
    have hlast : shared [e'] = shared [e] := by
      simp only [shared, List.filterMap_cons, hshared]
    simp only [World.note, shared_append, h.trace, hlast]

lemma ask (h : Shares R w w') {α : Type} {f : S.EngineState → α × S.EngineState}
    {f' : T.EngineState → α × T.EngineState} (hsame : Same R (f w.engine) (f' w'.engine))
    {call call' : EngineCall}
    (hshared : (Effect.engine call').shared? = (Effect.engine call).shared?) :
    Same (Shares R) (w.ask call f) (w'.ask call' f') :=
  ⟨hsame.1, h.note hsame.2 hshared⟩

lemma send (hS : S.Attentive) (hT : T.Attentive) (h : Shares R w w') (m : Message) :
    Same (Shares R) (w.send m) (w'.send m) := by
  rw [send_eq, send_eq, hS, hT]
  exact ⟨rfl, h.engine, (h.note h.engine (e := .message m true) rfl).trace⟩

lemma update_left (twins : S.engine.Twins T.engine R) (h : Shares R w w') (v : Visualization)
    (failure : Option EngineError) : Shares R (v.update failure w).2 w' := by
  unfold Visualization.update
  split
  · simp only [circuit_eq, updatePanel_eq]
    refine ⟨twins.circuit_left h.engine, h.trace.trans ?_⟩
    simp [shared, Effect.shared?]
  · exact h

lemma update_right (twins : S.engine.Twins T.engine R) (h : Shares R w w') (v : Visualization)
    (failure : Option EngineError) : Shares R w (v.update failure w').2 := by
  unfold Visualization.update
  split
  · simp only [circuit_eq, updatePanel_eq]
    refine ⟨twins.circuit_right h.engine, .trans ?_ h.trace⟩
    simp [shared, Effect.shared?]
  · exact h

end World.Shares

/-- Sessions are alike that differ in their panels, in what is known of them and in circuits. -/
def Likeness.sharing (hS : S.Attentive) (hT : T.Attentive)
    {R : S.EngineState → T.EngineState → Prop} (twins : S.engine.Twins T.engine R) :
    Likeness S T where
  offset := 0
  world := Shares R
  config := RunConfiguration.Agrees
  view _ _ := True
  configured := Eq
  request := Request.Agrees
  loadProgram hw _ _ hc :=
    hw.ask (twins.loadProgram hw.engine hc) hc.shared
  breakpoints hw source := hw.ask (twins.breakpoints hw.engine source) rfl
  eval hw action armed := hw.ask (twins.eval hw.engine action armed) rfl
  stackFrames hw := hw.ask (twins.stackFrames hw.engine) rfl
  localVariables hw := hw.ask (twins.localVariables hw.engine) rfl
  quantumState hw := hw.ask (twins.quantumState hw.engine) rfl
  terminate hw := hw.note (twins.terminate hw.engine) (e := .engine .terminate) rfl
  record hw t := hw.note hw.engine (e := .telemetry t) rfl
  send hw m := by
    rw [Message.shift_zero]
    exact hw.send hS hT m
  update hw v v' _ failure :=
    ⟨trivial, (hw.update_left twins v failure).update_right twins v' failure⟩
  config_refl := .refl
  agrees := id
  enable _ := trivial
  setProgram _ _ := trivial
  shows _ _ _ _ := trivial
  remembers hc _ _ _ := by
    obtain ⟨hprogram, hentry, hshots, hdebug, hstop, htrace⟩ := hc
    split <;> split <;> exact ⟨hprogram, hentry, hshots, hdebug, hstop, htrace⟩
  configured_true := rfl
  seq hr := by cases hr <;> rfl
  command hr := by
    cases hr with
    | same => exact .inl ⟨by rw [Command.shift_zero, id_eq], fun _ _ _ _ => rfl⟩
    | launch seq noDebug h => exact .inr ⟨noDebug, _, _, rfl, rfl, h.takes noDebug⟩

/-! ### The story of a session -/

/-- What is known of a call when some of what it does is left out of account. -/
structure Account where
  result : Except SessionError Unit
  effects : List Effect
  phase : Phase

namespace Debugger

/-- What is known of a call: how it ends, what it does, and how far the session is after it. -/
def account (d : Debugger S) (c : Call) : Account :=
  ⟨(d.call c).1, shared (d.effects c), (d.call c).2.phase⟩

def story (d : Debugger S) : List Call → List Account
  | [] => []
  | c :: cs => d.account c :: (d.call c).2.story cs

variable {d : Debugger S} {d' : Debugger T}

lemma account_alike (hS : S.Attentive) (hT : T.Attentive)
    {R : S.EngineState → T.EngineState → Prop} (twins : S.engine.Twins T.engine R)
    (h : (Likeness.sharing hS hT twins).Alike d d') {c c' : Call} (hc : c.Agrees c') :
    d'.account c' = d.account c ∧
      (Likeness.sharing hS hT twins).Alike (d.call c).2 (d'.call c').2 := by
  have hcalls : (Likeness.sharing hS hT twins).Calls c c' := by
    cases hc with
    | request now later hr => exact .request now later hr
    | resume now => exact .resume now
  obtain ⟨hresult, hd⟩ := h.call (fun _ _ => Eq.symm) hcalls
  have htrace : shared (d'.call c').2.world.trace = shared (d.call c).2.world.trace :=
    hd.world.trace
  rw [trace_call, trace_call, shared_append, shared_append, h.world.trace] at htrace
  refine ⟨?_, hd⟩
  simp only [account, hresult, List.append_cancel_left htrace, hd.phase]

/-- **Sessions that differ in circuits and panels alone tell the same story.** -/
theorem story_shared (hS : S.Attentive) (hT : T.Attentive)
    {R : S.EngineState → T.EngineState → Prop} (twins : S.engine.Twins T.engine R)
    (h : d.Fresh) (h' : d'.Fresh) (hengine : R d.world.engine d'.world.engine)
    (htimeout : d'.timeout = d.timeout) {cs cs' : List Call}
    (hcs : List.Forall₂ Call.Agrees cs cs') : d'.story cs' = d.story cs := by
  have hstart : (Likeness.sharing hS hT twins).Alike d d' := by
    have htrace : shared d'.world.trace = shared d.world.trace := by rw [h.trace, h'.trace]
    obtain ⟨w, profile, timeout, -, rfl⟩ := h
    obtain ⟨w', profile', timeout', -, rfl⟩ := h'
    exact ⟨⟨hengine, htrace⟩, ⟨.refl _, rfl, rfl, rfl, rfl⟩, trivial, rfl, rfl, rfl, rfl, .none,
      htimeout⟩
  clear h h' hengine htimeout
  induction hcs generalizing d d' with
  | nil => rfl
  | cons hc _ ih =>
    obtain ⟨haccount, hd⟩ := account_alike hS hT twins hstart hc
    rw [story, story, haccount, ih hd]

/-- Engines that write the same are the same but for what they have to say of their circuits. -/
lemma telling_twins (texts : List String) (circuit circuit' : Except EngineError Json) :
    (Engine.telling texts circuit).Twins (.telling texts circuit') Eq where
  loadProgram h _ _ _ := by subst h; exact ⟨rfl, rfl⟩
  breakpoints h _ := by subst h; exact ⟨rfl, rfl⟩
  eval h _ _ := by subst h; exact ⟨rfl, rfl⟩
  stackFrames h := by subst h; exact ⟨rfl, rfl⟩
  localVariables h := by subst h; exact ⟨rfl, rfl⟩
  quantumState h := by subst h; exact ⟨rfl, rfl⟩
  terminate h := h
  circuit_left h := h
  circuit_right h := h

/-- A session whose engine has no circuit, before a panel that takes no update. -/
def troubled : Debugger (.telling ["Hello\n"] (.error .exited) .stubborn) :=
  telling _ _ _ ⟨[], [.ok (.breakpointHit 2), .error .exited]⟩

def untroubled : Debugger (.telling ["Hello\n"] (.ok .null) .absent) :=
  telling _ _ _ ⟨[], [.ok (.breakpointHit 2), .error .exited]⟩

/-- A launch that asks for circuits or not, and two runs of the program. -/
def twoRuns (shown : Bool) : List Call :=
  [.request 0 0 (.circuitLaunch 1 shown), .resume 1000, .request 1001 1001 ⟨2, .continue⟩]

theorem troubled_shared :
    troubled.Fresh ∧ untroubled.Fresh ∧ List.Forall₂ Call.Agrees (twoRuns true) (twoRuns false) ∧
      untroubled.story (twoRuns false) = troubled.story (twoRuns true) ∧
      .engine .circuit ∈ (troubled.calls (twoRuns true)).world.trace ∧
      .engine .circuit ∉ (untroubled.calls (twoRuns false)).world.trace ∧
      (troubled.calls (twoRuns true)).phase = .terminated := by
  have hfresh : troubled.Fresh := telling_fresh _ _ _ _
  have hfresh' : untroubled.Fresh := telling_fresh _ _ _ _
  have hcs : List.Forall₂ Call.Agrees (twoRuns true) (twoRuns false) :=
    .cons (.request 0 0 (.launch 1 none (by decide +kernel)))
      (.cons (.resume 1000) (.cons (.request 1001 1001 (.same _)) .nil))
  refine ⟨hfresh, hfresh', hcs, ?_, by decide +kernel, by decide +kernel, by decide +kernel⟩
  exact story_shared (Surroundings.telling_attentive _ _ _) (Surroundings.telling_attentive _ _ _)
    (telling_twins _ _ _) hfresh hfresh' rfl rfl hcs

end Debugger

end QuantumDebug
